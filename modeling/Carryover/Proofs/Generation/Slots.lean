/-
# What a command touches

The state of a component is kept in `Cell`s, and a command's method works on boxes, one for each of
the cells that are its `slots`.  `Command.perform` is a command with any method in the place of its
own, one with effects of any kind: what it objects to comes first, then the method is run on boxes
that are filled from the old container, and what it leaves in them is stored into the component.

`Command.run_eq_perform` says that the commands are of this form, each with its own method.  So all
that is said about them below is said about the form: what is refused (`objection?`), that nothing
was done then, and which cells are other than before (`Component.at?_store`).
-/
import Carryover.Proofs.Generation.Request
import Carryover.State.Replay
import Mathlib.Logic.Function.Basic

namespace Carryover.State

/-! ## 1. Cells -/

/-- The places for values in containers. -/
inductive Cell where
  | count
  | text
  | edits
  | title
  | history
  | greeting
  | total
  deriving DecidableEq, Repr

namespace Cell

/-- What is kept in a cell. -/
abbrev Value : Cell → Type
  | count => Int32
  | text => String
  | edits => UInt32
  | title => String
  | history => List String
  | greeting => String
  | total => Int64

/-- The kind of containers that have the cell. -/
def kind : Cell → Kind
  | count => .counter
  | text => .label
  | edits => .label
  | title => .title
  | history => .title
  | greeting => .greeter
  | total => .tally

end Cell

/-- The value in a cell of a container. -/
def Container.at? : Container → (f : Cell) → Option f.Value
  | counter s, .count => some s.count
  | label s, .text => some s.text
  | label s, .edits => some s.edits
  | title s, .title => some s.title
  | title s, .history => some s.history
  | greeter s, .greeting => some s.greeting
  | tally s, .total => some s.total
  | _, _ => none

namespace Component

/-- The value in a cell of a component. -/
def at? (c : Component) (f : Cell) : Option f.Value :=
  c.container?.bind (·.at? f)

/-- The component with another value in a cell, if it has the cell. -/
def write : Component → (f : Cell) → f.Value → Component
  | counter _, .count, v => .counter ⟨v⟩
  | label s, .text, v => .label { s with text := v }
  | label s, .edits, v => .label { s with edits := v }
  | title s, .title, v => .title { s with title := v }
  | title s, .history, v => .title { s with history := v }
  | greeter w _, .greeting, v => .greeter w ⟨v⟩
  | tally _, .total, v => .tally ⟨v⟩
  | c, _, _ => c

/-- What is written can be read. -/
theorem at?_write_self {c : Component} {f : Cell} (h : c.kind = f.kind) (v : f.Value) :
    (c.write f v).at? f = some v := by
  cases f with
  | count =>
    obtain ⟨s, rfl⟩ := counter_of_kind h
    rfl
  | text =>
    obtain ⟨s, rfl⟩ := label_of_kind h
    rfl
  | edits =>
    obtain ⟨s, rfl⟩ := label_of_kind h
    rfl
  | title =>
    obtain ⟨s, rfl⟩ := title_of_kind h
    rfl
  | history =>
    obtain ⟨s, rfl⟩ := title_of_kind h
    rfl
  | greeting =>
    obtain ⟨w, s, rfl⟩ := greeter_of_kind h
    rfl
  | total =>
    obtain ⟨s, rfl⟩ := tally_of_kind h
    rfl

/-- Every other cell stays as it is. -/
theorem at?_write_of_ne (c : Component) {f g : Cell} (h : g ≠ f) (v : f.Value) :
    (c.write f v).at? g = c.at? g := by
  cases f <;> cases c <;> first | rfl | (cases g <;> first | rfl | exact absurd rfl h)

@[simp] theorem kind_write (c : Component) (f : Cell) (v : f.Value) :
    (c.write f v).kind = c.kind := by
  cases f <;> cases c <;> rfl

@[simp] theorem salutation_write (c : Component) (f : Cell) (v : f.Value) :
    (c.write f v).salutation = c.salutation := by
  cases f <;> cases c <;> rfl

end Component

/-! ## 2. Boxes -/

/-- A box for every cell. -/
abbrev Boxes :=
  (f : Cell) → Box f.Value

/-- The boxes of slots, each filled from the container; all others are empty. -/
def Container.boxes (c : Container) (slots : List Cell) : Boxes :=
  fun f => if f ∈ slots then ⟨c.at? f⟩ else .empty

namespace Component

/-- The component once one box is stored: an empty box leaves the cell alone. -/
def storeBox (c : Component) (f : Cell) (b : Box f.Value) : Component :=
  match b.value with
  | none => c
  | some v => c.write f v

/-- The component once the boxes of slots are stored. -/
def store (c : Component) (slots : List Cell) (left : Boxes) : Component :=
  slots.foldl (fun c f => c.storeBox f (left f)) c

theorem at?_storeBox_self {c : Component} {f : Cell} (h : c.kind = f.kind) (b : Box f.Value) :
    (c.storeBox f b).at? f = b.value.or (c.at? f) := by
  unfold storeBox
  cases b.value with
  | none => rfl
  | some v => exact at?_write_self h v

theorem at?_storeBox_of_ne (c : Component) {f g : Cell} (h : g ≠ f) (b : Box f.Value) :
    (c.storeBox f b).at? g = c.at? g := by
  unfold storeBox
  cases b.value with
  | none => rfl
  | some v => exact c.at?_write_of_ne h v

@[simp] theorem kind_storeBox (c : Component) (f : Cell) (b : Box f.Value) :
    (c.storeBox f b).kind = c.kind := by
  unfold storeBox
  cases b.value with
  | none => rfl
  | some v => exact c.kind_write f v

@[simp] theorem salutation_storeBox (c : Component) (f : Cell) (b : Box f.Value) :
    (c.storeBox f b).salutation = c.salutation := by
  unfold storeBox
  cases b.value with
  | none => rfl
  | some v => exact c.salutation_write f v

/-- Storing boxes changes neither the kind nor the salutation. -/
theorem kind_store (c : Component) (slots : List Cell) (left : Boxes) :
    (c.store slots left).kind = c.kind ∧ (c.store slots left).salutation = c.salutation := by
  unfold store
  induction slots generalizing c with
  | nil => exact ⟨rfl, rfl⟩
  | cons f slots ih => simpa using ih (c.storeBox f (left f))

/-- **What is stored**: a slot holds what its box holds, or what it held if the box is empty, and
all other cells hold what they held. -/
theorem at?_store {c : Component} {slots : List Cell} (h : ∀ f ∈ slots, c.kind = f.kind)
    (left : Boxes) (f : Cell) :
    (c.store slots left).at? f
      = if f ∈ slots then (left f).value.or (c.at? f) else c.at? f := by
  induction slots generalizing c with
  | nil => rfl
  | cons g slots ih =>
    obtain ⟨hg, hslots⟩ := List.forall_mem_cons.mp h
    have hrest := @ih (c.storeBox g (left g)) fun f hf => (c.kind_storeBox g _).trans (hslots f hf)
    have hstore : c.store (g :: slots) left = (c.storeBox g (left g)).store slots left := rfl
    rw [hstore, hrest]
    by_cases hfg : f = g
    · subst hfg
      rw [at?_storeBox_self hg, if_pos List.mem_cons_self]
      by_cases hf : f ∈ slots
      · rw [if_pos hf, ← Option.or_assoc, Option.or_self]
      · rw [if_neg hf]
    · have hmem : f ∈ g :: slots ↔ f ∈ slots := by simp [hfg]
      rw [c.at?_storeBox_of_ne hfg, if_congr hmem rfl rfl]

end Component

/-! ## 3. The form of a command -/

namespace Command

/-- The cells that a command's method has as boxes. -/
def slots : Command → List Cell
  | increment _ => [.count]
  | reset => [.count]
  | append _ => [.text, .edits]
  | overwriteText _ => []
  | wrap _ _ => [.title, .history]
  | touch => []
  | pushDisplay _ => [.title]
  | greet _ _ => [.greeting]

/-- The cell that a lazy command overwrites, and its value; the others have methods. -/
def overwrites? : Command → Option ((f : Cell) × f.Value)
  | overwriteText text => some ⟨.text, text⟩
  | _ => none

/-- The command's method, on the boxes of its slots; none if it aborts. -/
def method : Command → Boxes → Option Boxes
  | increment delta, b => some (Function.update b .count (addToCount delta (b .count)))
  | reset, b => some (Function.update b .count (resetCount (b .count)))
  | append suffix, b =>
    (appendText? suffix (b .text) (b .edits)).map fun (text, edits) =>
      Function.update (Function.update b .text text) .edits edits
  | overwriteText _, b => some b
  | wrap before after, b =>
    let (title, history) := wrapTitle before after (b .title) (b .history)
    some (Function.update (Function.update b .title title) .history history)
  | touch, b => some b
  | pushDisplay shown, b => some (Function.update b .title (extendTitle shown (b .title)))
  | greet salutation name, b =>
    some (Function.update b .greeting (greetByName salutation name (b .greeting)))

/-- What a command objects to: with slots, first to a container that is not of its kind; and to a
component that is not, if there is anything to write. -/
def objection? (c : Command) (old : Container) (live : Component) : Option StateError :=
  if c.slots ≠ [] ∧ old.kind ≠ c.kind then some (.containerMismatch (.container c.kind))
  else if (c.slots ≠ [] ∨ c.overwrites?.isSome) ∧ live.kind ≠ c.kind then
    some (.componentMismatch (.component c.kind))
  else none

/-- A command with another method in the place of its own.  What the method does besides is of any
kind `m`; an error holds nothing of it. -/
def perform {m : Type → Type} [Monad m] (c : Command) (method : Boxes → m Boxes)
    (old : Container) (live : Component) : Except StateError (m Component) :=
  match c.objection? old live with
  | some e => .error e
  | none =>
    .ok (match c.overwrites? with
      | some ⟨f, v⟩ => pure (live.write f v)
      | none => live.store c.slots <$> method (old.boxes c.slots))

/-- **A command is of this form**, with its own method. -/
theorem run_eq_perform (c : Command) (old : Container) (live : Component) :
    c.run old live = c.perform c.method old live := by
  cases c with
  | increment delta => cases old <;> cases live <;> rfl
  | reset => cases old <;> cases live <;> rfl
  | append suffix =>
    cases old with
    | label seed =>
      cases live with
      | label own =>
        show Except.ok ((appendText? suffix (.of seed.text) (.of seed.edits)).map _)
          = Except.ok (_ <$> (appendText? suffix (.of seed.text) (.of seed.edits)).map _)
        -- the method is run or aborts on both sides
        cases appendText? suffix (.of seed.text) (.of seed.edits) with
        | none => rfl
        | some left =>
          obtain ⟨⟨text⟩, ⟨edits⟩⟩ := left
          cases text <;> cases edits <;> rfl
      | _ => rfl
    | _ => cases live <;> rfl
  | overwriteText text => cases live <;> rfl
  | wrap before after => cases old <;> cases live <;> rfl
  | touch => rfl
  | pushDisplay shown => cases old <;> cases live <;> rfl
  | greet salutation name => cases old <;> cases live <;> rfl

/-! ## 4. What is refused -/

/-- The slots of a command are cells of its kind. -/
theorem kind_of_mem_slots {c : Command} {f : Cell} (h : f ∈ c.slots) : f.kind = c.kind := by
  cases c <;> simp only [slots, List.mem_cons, List.not_mem_nil, or_false] at h
  case append => rcases h with rfl | rfl <;> rfl
  case wrap => rcases h with rfl | rfl <;> rfl
  all_goals exact h ▸ rfl

/-- So is the cell that it overwrites, and then it has no slots. -/
theorem kind_of_overwrites {c : Command} {f : Cell} {v : f.Value}
    (h : c.overwrites? = some ⟨f, v⟩) : f.kind = c.kind ∧ c.slots = [] := by
  cases c <;> simp only [overwrites?, Option.some.injEq, reduceCtorEq] at h
  obtain ⟨rfl, -⟩ := Sigma.mk.inj h
  exact ⟨rfl, rfl⟩

variable {c : Command} {old : Container} {live : Component}

/-- A foreign container is objected to if there are slots. -/
theorem objection?_container_iff :
    c.objection? old live = some (.containerMismatch (.container c.kind))
      ↔ c.slots ≠ [] ∧ old.kind ≠ c.kind := by
  unfold objection?
  by_cases hcontainer : c.slots ≠ [] ∧ old.kind ≠ c.kind
  · simp [hcontainer]
  · rw [if_neg hcontainer]
    split <;> simp [hcontainer]

/-- A foreign component is objected to if there is anything to write, and no other objection. -/
theorem objection?_component_iff :
    c.objection? old live = some (.componentMismatch (.component c.kind))
      ↔ (c.slots ≠ [] ∧ old.kind = c.kind ∨ c.overwrites?.isSome) ∧ live.kind ≠ c.kind := by
  have hslots : c.overwrites?.isSome → c.slots = [] := by
    intro h
    obtain ⟨⟨f, v⟩, hv⟩ := Option.isSome_iff_exists.mp h
    exact (kind_of_overwrites hv).2
  unfold objection?
  by_cases hcontainer : c.slots ≠ [] ∧ old.kind ≠ c.kind
  · have hbare : c.overwrites?.isSome = false := Bool.eq_false_iff.mpr (mt hslots hcontainer.1)
    simp [hcontainer, hbare]
  · rw [if_neg hcontainer]
    split <;> grind

/-- There is no objection to what is of the command's kind. -/
theorem objection?_eq_none_iff :
    c.objection? old live = none
      ↔ (c.slots ≠ [] → old.kind = c.kind) ∧
        (c.slots ≠ [] ∨ c.overwrites?.isSome → live.kind = c.kind) := by
  unfold objection?
  split
  · grind
  · split <;> grind

/-- There are no other objections. -/
theorem eq_of_objection? {e : StateError} (h : c.objection? old live = some e) :
    e = .containerMismatch (.container c.kind) ∨ e = .componentMismatch (.component c.kind) := by
  unfold objection? at h
  split at h
  · exact .inl (Option.some.inj h).symm
  · split at h
    · exact .inr (Option.some.inj h).symm
    · exact absurd h nofun

/-- Only an edit beyond 32 bits aborts. -/
theorem method_eq_none_iff :
    c.method (old.boxes c.slots) = none
      ↔ ∃ suffix s, c = .append suffix ∧ old = .label s ∧ s.edits.toNat + 1 = UInt32.size := by
  cases c with
  | append suffix =>
    have hmethod : (append suffix).method (old.boxes (append suffix).slots) = none
        ↔ nextEdit? ((old.at? .edits).getD 0) = none := by
      show Option.map _ (Option.map _ (nextEdit? ((old.at? .edits).getD 0))) = none
        ↔ _
      rw [Option.map_eq_none_iff, Option.map_eq_none_iff]
    rw [hmethod]
    cases old with
    | label s =>
      have hsize : UInt32.size = 4294967296 := rfl
      have hlt := s.edits.toNat_lt
      have hfull : nextEdit? s.edits = none ↔ s.edits.toNat + 1 = UInt32.size := by
        unfold nextEdit?
        split <;> simp <;> omega
      refine hfull.trans ⟨fun h => ⟨suffix, s, rfl, rfl, h⟩, ?_⟩
      rintro ⟨-, t, -, hs, h⟩
      obtain rfl := Container.label.inj hs
      exact h
    | _ => exact ⟨fun h => absurd h (by decide : nextEdit? 0 ≠ none), nofun⟩
  | _ => exact ⟨nofun, nofun⟩

end Command

/-! ## 5. What a run comes to -/

section Run

variable {nested : Address → Live Component Update → Run Component Update} {c : Command}
  {old : Container} {live : Live Component Update}

/-- What is objected to is refused, and that is all. -/
theorem command_run_of_objection {e : StateError} (h : c.objection? old live.component = some e) :
    (Update.command c).run nested old live = (live, .error (.refused e)) := by
  show live.change (c.run old live.component) = _
  rw [c.run_eq_perform, Command.perform, h]
  rfl

/-- **What a run can come to.**  Where there is no objection, a lazy command overwrites its cell, and
any other stores what its method left, unless the method aborts. -/
theorem command_cases (nested : Address → Live Component Update → Run Component Update)
    (c : Command) (old : Container) (live : Live Component Update) :
    let run := (Update.command c).run nested old live
    (∃ e, c.objection? old live.component = some e ∧ run = (live, .error (.refused e))) ∨
    (c.objection? old live.component = none ∧
      ((∃ f v, c.overwrites? = some ⟨f, v⟩ ∧
          run = ({ live with component := live.component.write f v }, .ok ())) ∨
        c.overwrites? = none ∧
          ((c.method (old.boxes c.slots) = none ∧ run = (live, .error .aborted)) ∨
            ∃ left, c.method (old.boxes c.slots) = some left ∧
              run = ({ live with component := live.component.store c.slots left }, .ok ())))) := by
  intro run
  have hrun : run = live.change (c.perform c.method old live.component) :=
    congrArg live.change (c.run_eq_perform old live.component)
  cases ho : c.objection? old live.component with
  | some e => exact .inl ⟨e, rfl, command_run_of_objection ho⟩
  | none =>
    refine .inr ⟨rfl, ?_⟩
    rw [Command.perform, ho] at hrun
    cases hv : c.overwrites? with
    | some target =>
      rw [hv] at hrun
      exact .inl ⟨target.1, target.2, rfl, hrun⟩
    | none =>
      rw [hv] at hrun
      refine .inr ⟨rfl, ?_⟩
      cases hm : c.method (old.boxes c.slots) with
      | none =>
        simp only [hm] at hrun
        exact .inl ⟨rfl, hrun⟩
      | some left =>
        simp only [hm] at hrun
        exact .inr ⟨left, rfl, hrun⟩

/-- **Nothing but objections is refused.** -/
theorem command_refused_iff {e : StateError} :
    ((Update.command c).run nested old live).2 = .error (.refused e)
      ↔ c.objection? old live.component = some e := by
  obtain ⟨e', ho, hrun⟩ | ⟨ho, ⟨f, v, -, hrun⟩ | ⟨-, ⟨-, hrun⟩ | ⟨left, -, hrun⟩⟩⟩ :=
    command_cases nested c old live
  · rw [hrun, ho]
    simp
  all_goals
    rw [hrun, ho]
    exact ⟨nofun, nofun⟩

/-- Nothing is done where there is an objection, whatever the method. -/
theorem perform_of_objection {m : Type → Type} [Monad m] {e : StateError}
    (h : c.objection? old live.component = some e) (method : Boxes → m Boxes) :
    c.perform method old live.component = .error e := by
  unfold Command.perform
  rw [h]

/-- **Only an edit beyond 32 bits aborts a run**, and only where the label would have been
written. -/
theorem command_aborted_iff :
    ((Update.command c).run nested old live).2 = .error .aborted
      ↔ ∃ suffix s, c = .append suffix ∧ old = .label s ∧ s.edits.toNat + 1 = UInt32.size ∧
        live.component.kind = .label := by
  obtain ⟨e, ho, hrun⟩ | ⟨ho, ⟨f, v, hv, hrun⟩ | ⟨-, ⟨hm, hrun⟩ | ⟨left, hm, hrun⟩⟩⟩ :=
    command_cases nested c old live
  · rw [hrun]
    refine ⟨nofun, ?_⟩
    rintro ⟨suffix, s, rfl, rfl, -, hkind⟩
    have hnone : (Command.append suffix).objection? (.label s) live.component = none :=
      Command.objection?_eq_none_iff.mpr ⟨fun _ => rfl, fun _ => hkind⟩
    exact absurd (ho.symm.trans hnone) nofun
  · rw [hrun]
    refine ⟨nofun, ?_⟩
    rintro ⟨suffix, s, rfl, -⟩
    exact absurd hv nofun
  · obtain ⟨suffix, s, rfl, hold, hfull⟩ := Command.method_eq_none_iff.mp hm
    obtain ⟨-, hkind⟩ := Command.objection?_eq_none_iff.mp ho
    rw [hrun]
    exact ⟨fun _ => ⟨suffix, s, rfl, hold, hfull, hkind (.inl nofun)⟩, fun _ => rfl⟩
  · rw [hrun]
    refine ⟨nofun, ?_⟩
    rintro ⟨suffix, s, hc, hold, hfull, -⟩
    have hnone := Command.method_eq_none_iff.mpr ⟨suffix, s, hc, hold, hfull⟩
    exact absurd (hm.symm.trans hnone) nofun

/-- **What goes through** writes the slots, or the one cell, and nothing else. -/
theorem command_run_ok (h : ((Update.command c).run nested old live).2 = .ok ()) :
    (∃ f v, c.overwrites? = some ⟨f, v⟩ ∧ live.component.kind = f.kind ∧
      (Update.command c).run nested old live
        = ({ live with component := live.component.write f v }, .ok ())) ∨
    ∃ left, c.overwrites? = none ∧ c.method (old.boxes c.slots) = some left ∧
      (∀ f ∈ c.slots, live.component.kind = f.kind) ∧
      (Update.command c).run nested old live
        = ({ live with component := live.component.store c.slots left }, .ok ()) := by
  obtain ⟨e, -, hrun⟩ | ⟨ho, hdone⟩ := command_cases nested c old live
  · rw [hrun] at h
    exact absurd h nofun
  · obtain ⟨-, hkind⟩ := Command.objection?_eq_none_iff.mp ho
    obtain ⟨f, v, hv, hrun⟩ | ⟨hv, ⟨-, hrun⟩ | ⟨left, hm, hrun⟩⟩ := hdone
    · have hf := (Command.kind_of_overwrites hv).1
      exact .inl ⟨f, v, hv, (hkind (.inr (by rw [hv]; rfl))).trans hf.symm, hrun⟩
    · rw [hrun] at h
      exact absurd h nofun
    · refine .inr ⟨left, hv, hm, fun f hf => ?_, hrun⟩
      exact (hkind (.inl (List.ne_nil_of_mem hf))).trans (Command.kind_of_mem_slots hf).symm

end Run

/-! ## 6. The law -/

/-- **A command is atomic and touches its slots alone.**  With slots it refuses a container that is
not of its kind, and otherwise a component that is not; a lazy one reads no container and refuses
such a component; any other goes through and changes nothing.  What is refused leaves everything as
it was, and nothing of the method was done.  What goes through leaves in each slot what the method
left in the box that was filled from the container, in a slot with an empty box and in all other
cells what the component itself held, and it leaves the queues, the kind and the salutation.  Only
an edit that cannot be counted goes neither way. -/
theorem command_atomic (nested : Address → Live Component Update → Run Component Update)
    (c : Command) (old : Container) (live : Live Component Update) :
    let after := (Update.command c).run nested old live
    (after.2 = .error (.refused (.containerMismatch (.container c.kind)))
      ↔ c.slots ≠ [] ∧ old.kind ≠ c.kind) ∧
    (after.2 = .error (.refused (.componentMismatch (.component c.kind)))
      ↔ (c.slots ≠ [] ∧ old.kind = c.kind ∨ c.overwrites?.isSome) ∧
        live.component.kind ≠ c.kind) ∧
    (c.slots = [] → ∀ other, (Update.command c).run nested other live = after) ∧
    (c.slots = [] → c.overwrites? = none → after = (live, .ok ())) ∧
    (∀ e, after.2 = .error (.refused e) →
      (e = .containerMismatch (.container c.kind) ∨ e = .componentMismatch (.component c.kind)) ∧
      after.1 = live ∧
      ∀ (m : Type → Type) [Monad m] (method : Boxes → m Boxes),
        c.perform method old live.component = .error e) ∧
    c.run old live.component = c.perform c.method old live.component ∧
    (after.2 = .ok () →
      after.1.queues = live.queues ∧ after.1.component.kind = live.component.kind ∧
      after.1.component.salutation = live.component.salutation ∧
      (∀ f v, c.overwrites? = some ⟨f, v⟩ → after.1.component.at? f = some v ∧
        ∀ g, g ≠ f → after.1.component.at? g = live.component.at? g) ∧
      (c.overwrites? = none → ∃ left, c.method (old.boxes c.slots) = some left ∧ ∀ f,
        after.1.component.at? f
          = if f ∈ c.slots then (left f).value.or (live.component.at? f)
            else live.component.at? f)) ∧
    (after.2 = .error .aborted
      ↔ ∃ suffix s, c = .append suffix ∧ old = .label s ∧ s.edits.toNat + 1 = UInt32.size ∧
        live.component.kind = .label) := by
  intro after
  refine ⟨command_refused_iff.trans Command.objection?_container_iff,
    command_refused_iff.trans Command.objection?_component_iff, fun hs other => ?_,
    fun hs hv => ?_, fun e he => ?_, c.run_eq_perform old live.component, fun hok => ?_,
    command_aborted_iff⟩
  · cases c with
    | overwriteText text => rfl
    | touch => rfl
    | _ => exact absurd hs nofun
  · cases c with
    | touch => rfl
    | overwriteText text => exact absurd hv nofun
    | _ => exact absurd hs nofun
  · have ho := command_refused_iff.mp he
    refine ⟨Command.eq_of_objection? ho, congrArg Prod.fst (command_run_of_objection ho), ?_⟩
    exact fun m _ method => perform_of_objection ho method
  · obtain ⟨f, v, hv, hkind, hrun⟩ | ⟨left, hv, hm, hkind, hrun⟩ := command_run_ok hok
    · have hafter : after = _ := hrun
      rw [hafter]
      refine ⟨rfl, live.component.kind_write f v, live.component.salutation_write f v, ?_, ?_⟩
      · rintro g w hw
        obtain ⟨rfl, hvw⟩ := Sigma.mk.inj (Option.some.inj (hv.symm.trans hw))
        obtain rfl := eq_of_heq hvw
        exact ⟨Component.at?_write_self hkind v, fun g hg => live.component.at?_write_of_ne hg v⟩
      · exact fun hn => absurd (hv.symm.trans hn) nofun
    · have hafter : after = _ := hrun
      obtain ⟨hk, hw⟩ := live.component.kind_store c.slots left
      rw [hafter]
      refine ⟨rfl, hk, hw, ?_, fun _ => ⟨left, hm, Component.at?_store hkind left⟩⟩
      exact fun f v hsome => absurd (hv.symm.trans hsome) nofun

/-- A title grows from what the old container holds, and keeps a history of its own. -/
theorem title_after_pushDisplay :
    let live : Live Component Update := ⟨.title ⟨"new", ["newer"]⟩, .empty⟩
    let after := (Update.command (.pushDisplay "!")).run applyQueue (.title ⟨"old", ["older"]⟩) live
    after.2 = .ok () ∧ after.1.component.at? .title = some "old!" ∧
      after.1.component.at? .history = some ["newer"] := by
  intro live after
  obtain ⟨-, -, -, -, -, -, hstored, -⟩ :=
    command_atomic applyQueue (.pushDisplay "!") (.title ⟨"old", ["older"]⟩) live
  obtain ⟨-, -, -, -, hslots⟩ := hstored rfl
  obtain ⟨left, hleft, hat⟩ := hslots rfl
  obtain rfl := Option.some.inj hleft
  exact ⟨rfl, hat .title, hat .history⟩

end Carryover.State
