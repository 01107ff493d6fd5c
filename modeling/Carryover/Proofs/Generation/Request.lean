/-
# What a request comes to

A request is made in the scope of some generation of a component, waits as a command, and is run
on a later generation.  `Asked.effect` says what it does to the state, in plain terms: no boxes,
no containers to look for, no component but the one in whose scope it was made, whose salutation
a greeting takes.

`Asked.command?_eq` says which command waits for a request.  `Asked.run_command` is the law: this
command, run on a component that shows the state and reads it from there, leaves a component that
shows the effect.  The one way out is a label whose edits are all used up, so `Asked.Fits` asks for
room to count one more.
-/
import Carryover.State.Context

namespace Carryover.State

/-! ## 1. Requests and their effect -/

/-- A request with the generation of the component in whose scope it is made. -/
structure Asked where
  timing : Timing
  request : Request
  scope : Component

/-- The salutation that a component is bound to; only a greeter has one. -/
def Component.salutation : Component → String
  | greeter w _ => w
  | _ => ""

/-- **The state after a request.**  A request for another kind of component changes nothing. -/
def Asked.effect (x : Asked) (state : Container) : Container :=
  match x.request, state with
  | .increment delta, .counter s => .counter ⟨s.count + delta⟩
  | .reset, .counter _ => .counter ⟨0⟩
  | .append suffix, .label s => .label ⟨s.text ++ suffix, s.edits + 1⟩
  | .overwriteText text, .label s => .label ⟨text, s.edits⟩
  | .wrap before after, .title s =>
    .title ⟨before ++ s.title ++ after, s.history ++ [s.title]⟩
  | .touch, .title s => .title s
  | .pushDisplay v, .title s => .title ⟨s.title ++ v.write, s.history⟩
  | .greet name, .greeter _ => .greeter ⟨x.scope.salutation ++ ", " ++ name ++ "!"⟩
  | _, state => state

/-- How many edits a request counts. -/
def Request.edits : Request → Nat
  | append _ => 1
  | _ => 0

/-- How many edits a state has counted. -/
def Container.edits : Container → Nat
  | label s => s.edits.toNat
  | _ => 0

/-- Is there room to count the edits of the request? -/
def Asked.Fits (x : Asked) (state : Container) : Prop :=
  state.edits + x.request.edits < UInt32.size

/-- Is the request one that the entry points of a kind offer, made in the scope of a component of
this kind? -/
def Asked.IsFor (x : Asked) (k : Kind) : Prop :=
  x.request.kind = k ∧ x.scope.kind = k

/-- The command that waits for a request. -/
def Asked.command (x : Asked) : Command :=
  match x.request with
  | .increment delta => .increment delta
  | .reset => .reset
  | .append suffix => .append suffix
  | .overwriteText text => .overwriteText text
  | .wrap before after => .wrap before after
  | .touch => .touch
  | .pushDisplay v => .pushDisplay v.write
  | .greet name => .greet x.scope.salutation name

/-! ## 2. Kinds -/

/-- Only a counter is of the kind of counters. -/
theorem counter_of_kind {c : Component} (h : c.kind = .counter) : ∃ s, c = .counter s := by
  cases c <;> simp_all [Component.kind]

/-- Only a label is of the kind of labels. -/
theorem label_of_kind {c : Component} (h : c.kind = .label) : ∃ s, c = .label s := by
  cases c <;> simp_all [Component.kind]

/-- Only a title is of the kind of titles. -/
theorem title_of_kind {c : Component} (h : c.kind = .title) : ∃ s, c = .title s := by
  cases c <;> simp_all [Component.kind]

/-- Only a greeter is of the kind of greeters. -/
theorem greeter_of_kind {c : Component} (h : c.kind = .greeter) :
    ∃ w s, c = .greeter w s := by
  cases c <;> simp_all [Component.kind]

/-- Only a tally is of the kind of tallies. -/
theorem tally_of_kind {c : Component} (h : c.kind = .tally) : ∃ s, c = .tally s := by
  cases c <;> simp_all [Component.kind]

/-! ## 3. Running the command -/

/-- **A request in the scope of its own kind of component becomes its command.**  Of the component
the command keeps the salutation and nothing else. -/
theorem Asked.command?_eq {x : Asked} {k : Kind} (h : x.IsFor k) :
    x.request.command? x.scope = some x.command := by
  obtain ⟨timing, request, scope⟩ := x
  obtain ⟨rfl, hscope⟩ := h
  cases request with
  | increment delta =>
    obtain ⟨s, rfl⟩ := counter_of_kind hscope
    rfl
  | reset =>
    obtain ⟨s, rfl⟩ := counter_of_kind hscope
    rfl
  | append suffix =>
    obtain ⟨s, rfl⟩ := label_of_kind hscope
    rfl
  | overwriteText text =>
    obtain ⟨s, rfl⟩ := label_of_kind hscope
    rfl
  | wrap before after =>
    obtain ⟨s, rfl⟩ := title_of_kind hscope
    rfl
  | touch =>
    obtain ⟨s, rfl⟩ := title_of_kind hscope
    rfl
  | pushDisplay v =>
    obtain ⟨s, rfl⟩ := title_of_kind hscope
    rfl
  | greet name =>
    obtain ⟨w, s, rfl⟩ := greeter_of_kind hscope
    rfl

/-- With room to count one more, an edit is counted. -/
theorem nextEdit?_eq_some {edits : UInt32} (h : edits.toNat + 1 < UInt32.size) :
    nextEdit? edits = some (edits + 1) := by
  unfold nextEdit?
  rw [if_pos h]

/-- **The command of a request does what the request asks for.**  It is run on a component that
shows `state`, which is also the container that it reads, and leaves a component that shows the
effect; the scope of the request may be any other generation. -/
theorem Asked.run_command {x : Asked} {live : Component} {state : Container}
    (hlive : live.container? = some state) (hfor : x.IsFor live.kind) (hfits : x.Fits state) :
    ∃ next, x.command.run state live = .ok (some next) ∧
      next.container? = some (x.effect state) ∧ next.kind = live.kind := by
  obtain ⟨timing, request, scope⟩ := x
  have hkind : live.kind = request.kind := hfor.1.symm
  cases request with
  | increment delta =>
    obtain ⟨s, rfl⟩ := counter_of_kind hkind
    obtain rfl := Option.some.inj hlive
    exact ⟨_, rfl, rfl, rfl⟩
  | reset =>
    obtain ⟨s, rfl⟩ := counter_of_kind hkind
    obtain rfl := Option.some.inj hlive
    exact ⟨_, rfl, rfl, rfl⟩
  | append suffix =>
    obtain ⟨s, rfl⟩ := label_of_kind hkind
    obtain rfl := Option.some.inj hlive
    have hnext : nextEdit? s.edits = some (s.edits + 1) := nextEdit?_eq_some hfits
    refine ⟨.label ⟨s.text ++ suffix, s.edits + 1⟩, ?_, rfl, rfl⟩
    show Except.ok ((appendText? suffix (.of s.text) (.of s.edits)).map _) = _
    simp only [appendText?, Box.of, Option.getD_some, hnext]
    rfl
  | overwriteText text =>
    obtain ⟨s, rfl⟩ := label_of_kind hkind
    obtain rfl := Option.some.inj hlive
    exact ⟨_, rfl, rfl, rfl⟩
  | wrap before after =>
    obtain ⟨s, rfl⟩ := title_of_kind hkind
    obtain rfl := Option.some.inj hlive
    exact ⟨_, rfl, rfl, rfl⟩
  | touch =>
    obtain ⟨s, rfl⟩ := title_of_kind hkind
    obtain rfl := Option.some.inj hlive
    exact ⟨_, rfl, rfl, rfl⟩
  | pushDisplay v =>
    obtain ⟨s, rfl⟩ := title_of_kind hkind
    obtain rfl := Option.some.inj hlive
    exact ⟨_, rfl, rfl, rfl⟩
  | greet name =>
    obtain ⟨w, s, rfl⟩ := greeter_of_kind hkind
    obtain rfl := Option.some.inj hlive
    exact ⟨_, rfl, rfl, rfl⟩

/-! ## 4. Room for edits -/

/-- A request counts its own edits at most. -/
theorem Asked.edits_effect_le (x : Asked) (state : Container) :
    (x.effect state).edits ≤ state.edits + x.request.edits := by
  unfold effect
  split
  case h_3 suffix s hrequest =>
    rw [hrequest]
    show (s.edits + 1).toNat ≤ s.edits.toNat + 1
    rw [UInt32.toNat_add]
    exact Nat.mod_le _ _
  all_goals exact Nat.le_add_right _ _

end Carryover.State
