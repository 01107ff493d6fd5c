/-
# Commands

A command is one requested change of one kind of component, with the values that were given
when it was requested.  `Command.run` applies it to a container, the state that it reads, and
a component, the state that it writes:

* a command with slots wants both of its own kind, and looks at the container first;
* its boxes are filled from the container, its method runs on them, and they are stored into
  the component;
* an overwrite reads no container, and a touch has no slots and looks at nothing.

A method that counts beyond its range aborts before anything is stored.
-/
import Carryover.State.Box
import Carryover.State.Component

namespace Carryover.State

/-! ## 1. The methods, on the boxes of their slots -/

/-- A counter's sum wraps at 32 bits; an empty box counts as zero. -/
def addToCount (delta : Int32) (count : Box Int32) : Box Int32 :=
  count.put (count.value.getD 0 + delta)

/-- A counter starts over. -/
def resetCount (count : Box Int32) : Box Int32 :=
  count.put 0

/-- One more, within 32 bits. -/
def nextEdit? (edits : UInt32) : Option UInt32 :=
  if edits.toNat + 1 < UInt32.size then some (edits + 1) else none

/-- A label's text grows and its edits are counted; without room to count them, none. -/
def appendText? (suffix : String) (text : Box String) (edits : Box UInt32) :
    Option (Box String × Box UInt32) :=
  (nextEdit? (edits.value.getD 0)).map fun n => (text.modify (· ++ suffix), edits.put n)

/-- A title gets a beginning and an end; the title before goes into the history. -/
def wrapTitle (before after : String) (title : Box String) (history : Box (List String)) :
    Box String × Box (List String) :=
  let (old, rest) := title.take
  let old := old.getD ""
  (rest.put (before ++ old ++ after), history.modify (· ++ [old]))

/-- A title grows. -/
def extendTitle (shown : String) (title : Box String) : Box String :=
  title.modify (· ++ shown)

/-- A greeting is made from a salutation and a name. -/
def greetByName (salutation name : String) (greeting : Box String) : Box String :=
  greeting.put (salutation ++ ", " ++ name ++ "!")

/-! ## 2. The commands -/

/-- A requested change with its values. -/
inductive Command where
  | increment (delta : Int32)
  | reset
  | append (suffix : String)
  | overwriteText (text : String)
  | wrap (before after : String)
  | touch
  | pushDisplay (shown : String)
  | greet (salutation name : String)
  deriving DecidableEq, Repr

namespace Command

/-- The kind of component that a command is for. -/
def kind : Command → Kind
  | increment _ => .counter
  | reset => .counter
  | append _ => .label
  | overwriteText _ => .label
  | wrap _ _ => .title
  | touch => .title
  | pushDisplay _ => .title
  | greet _ _ => .greeter

/-- **The component after a command.**  None when the command's method aborts. -/
def run (old : Container) (live : Component) : Command → Except StateError (Option Component)
  | increment delta => do
    let seed ← old.asCounter
    let own ← live.asCounter
    let count := addToCount delta (.of seed.count)
    return some (.counter ⟨count.store own.count⟩)
  | reset => do
    let seed ← old.asCounter
    let own ← live.asCounter
    let count := resetCount (.of seed.count)
    return some (.counter ⟨count.store own.count⟩)
  | append suffix => do
    let seed ← old.asLabel
    let own ← live.asLabel
    return (appendText? suffix (.of seed.text) (.of seed.edits)).map fun (text, edits) =>
      .label ⟨text.store own.text, edits.store own.edits⟩
  | overwriteText text => do
    let own ← live.asLabel
    return some (.label { own with text := (Box.of text).store own.text })
  | wrap before after => do
    let seed ← old.asTitle
    let own ← live.asTitle
    let (title, history) := wrapTitle before after (.of seed.title) (.of seed.history)
    return some (.title ⟨title.store own.title, history.store own.history⟩)
  | touch => return some live
  | pushDisplay shown => do
    let seed ← old.asTitle
    let own ← live.asTitle
    let title := extendTitle shown (.of seed.title)
    return some (.title { own with title := title.store own.title })
  | greet salutation name => do
    let seed ← old.asGreeter
    let (bound, own) ← live.asGreeter
    let greeting := greetByName salutation name (.of seed.greeting)
    return some (.greeter bound ⟨greeting.store own.greeting⟩)

end Command

end Carryover.State
