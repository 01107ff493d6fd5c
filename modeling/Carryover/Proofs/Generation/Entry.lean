/-
# A request puts in one update or does nothing

A request is made through a context, and three things can keep it from coming to anything: nothing
is in scope, a component of another kind is, or the context knows no handler.  Nobody hears of it,
whichever it was.  `Stage.Reaches` is when none of the three does; it looks at how the context came
to be and at nothing that was made of it on the way.

* `request_of_reaches`: a request that reaches a queue puts its own update there, at the end;
* `request_of_not_reaches`: any other request leaves the queues as they were.
-/
import Carryover.Proofs.Generation.Life
import Carryover.Proofs.Generation.Stage

namespace Carryover.State

/-! ## 1. Rendering -/

/-- An update asks for a rendering of its own component unless it is an overwrite. -/
theorem Queues.needsRender_push {υ : Type} (q : Queues υ) (a : Address) (p : Pending υ) :
    (q.push a p).needsRender a = true ↔ q.needsRender a = true ∨ p.mode ≠ .lazy := by
  rw [needsRender_iff, needsRender_iff, get_push, if_pos rfl]
  simp only [List.mem_append, List.mem_singleton, or_and_right, exists_or, exists_eq_left]

/-! ## 2. Requests through a context -/

/-- A component of another kind has no command for a request. -/
theorem Request.command?_eq_none {r : Request} {c : Component} (h : c.kind ≠ r.kind) :
    r.command? c = none := by
  cases r <;> cases c <;> first | rfl | exact absurd rfl h

/-- Overwrites alone are lazy; any other request goes in as it was timed. -/
theorem Request.mode_spec (t : Timing) (r : Request) :
    (r.mode t = .lazy ↔ ∃ text, r = .overwriteText text) ∧
      (r.mode t = .sync → t = .sync) ∧ (r.mode t = .async → t = .async) := by
  cases r <;> cases t <;> simp [mode]

variable {l : Lineage} {handler : Nat} {scope : Scope} {r : Request}

/-- **Does a request reach a queue?**  The context was made for the handler, the scope is the last
one that was given, and the component in it is of the kind that the request is for. -/
structure Lineage.Reaches (l : Lineage) (r : Request) (handler : Nat) (scope : Scope) : Prop where
  madeFor : l.handler? = some handler
  givenLast : l.scopes.getLast? = some scope
  kind_eq : scope.component.kind = r.kind

/-- **A request that reaches a queue** puts its own update at the end of it. -/
theorem request_of_reaches (h : l.Reaches r handler scope) (t : Timing) (q : Queues Update) :
    l.context.request t r q
      = q.push ⟨handler, scope.key⟩ (Asked.pending ⟨t, r, scope.component⟩) := by
  have hcontext : l.context = (Context.ofHandler handler).withScope scope.key scope.component := by
    rw [l.context_eq, h.givenLast, h.madeFor]
    rfl
  have hfor : Asked.IsFor ⟨t, r, scope.component⟩ r.kind := ⟨rfl, h.kind_eq⟩
  rw [hcontext]
  exact ask_eq_push hfor ⟨handler, scope.key⟩ q

/-- **Any other request does nothing.** -/
theorem request_of_not_reaches (h : ¬ ∃ handler scope, l.Reaches r handler scope) (t : Timing)
    (q : Queues Update) : l.context.request t r q = q := by
  rw [l.context_eq]
  unfold Context.request
  cases hscope : l.scopes.getLast? with
  | none => rfl
  | some scope =>
    by_cases hkind : scope.component.kind = r.kind
    · -- there is a command then, but no one to hand it to
      have hhandler : l.handler? = none :=
        Option.eq_none_iff_forall_ne_some.mpr fun handler hl =>
          h ⟨handler, scope, hl, hscope, hkind⟩
      rw [hhandler, Option.bind_some]
      cases r.command? scope.component <;> rfl
    · rw [Option.bind_some, Request.command?_eq_none hkind]

/-! ## 3. The law -/

/-- **A request puts in one update or does nothing**, through any context that can be made.  If the
context was made for a handler and a component of the right kind is in the scope that it was given
last, the queue under the key of this scope grows by one update at its end.  That is the command of
the request with its arguments, a greeting with the salutation of the component in scope; it is lazy
for an overwrite and timed as asked for otherwise.  A rendering is needed if it was, or if the
request is no overwrite.  No other queue changes, nor does a component or a context.  In every
other case nothing changes at all. -/
theorem request_enqueues_once (s : Stage) (i : Nat) (t : Timing) (r : Request) :
    let l := s.contexts i
    let after := s.act (.request i t r)
    after.components = s.components ∧ after.contexts = s.contexts ∧
    (∀ handler scope, l.Reaches r handler scope →
      let a : Address := ⟨handler, scope.key⟩
      let mode := r.mode t
      after.queues.get a
        = s.queues.get a ++ [⟨mode, .command (Asked.command ⟨t, r, scope.component⟩)⟩] ∧
      (mode = .lazy ↔ ∃ text, r = .overwriteText text) ∧
      (mode = .sync → t = .sync) ∧ (mode = .async → t = .async) ∧
      (∀ k, k ≠ a → after.queues.get k = s.queues.get k) ∧
      (after.queues.needsRender a = true ↔ s.queues.needsRender a = true ∨ mode ≠ .lazy)) ∧
    ((¬ ∃ handler scope, l.Reaches r handler scope) → after = s) := by
  intro l after
  refine ⟨rfl, rfl, fun handler scope hreaches => ?_, fun h => ?_⟩
  · intro a mode
    have hafter : after.queues = s.queues.push a (Asked.pending ⟨t, r, scope.component⟩) :=
      request_of_reaches hreaches t s.queues
    obtain ⟨hlazy, hsync, hasync⟩ := r.mode_spec t
    refine ⟨?_, hlazy, hsync, hasync, fun k hk => ?_, ?_⟩
    · rw [hafter, Queues.get_push, if_pos rfl]
      rfl
    · rw [hafter, Queues.get_push, if_neg fun e => hk e.symm, List.append_nil]
    · rw [hafter]
      exact s.queues.needsRender_push a _
  · have hqueues : l.context.request t r s.queues = s.queues := request_of_not_reaches h t s.queues
    show { s with queues := l.context.request t r s.queues } = s
    rw [hqueues]

/-- A door that greets, and contexts that were once scoped to a label. -/
def door : Stage where
  components _ := .greeter "Hello" ⟨""⟩
  contexts _ := .within (.cloned (.within (.ofHandler 0) "sign" (.label ⟨"", 0⟩))) "door"
    (.greeter "Hello" ⟨""⟩)
  queues := .empty

/-- A greeting is asked for at the door alone, and for text there is no one left. -/
theorem queues_of_door :
    (door.act (.request 0 .async (.greet "Ada"))).queues.get ⟨0, "door"⟩
      = [⟨.async, .command (.greet "Hello" "Ada")⟩] ∧
    (door.act (.request 0 .async (.greet "Ada"))).queues.get ⟨0, "sign"⟩ = [] ∧
    door.act (.request 0 .sync (.append "!")) = door := by
  obtain ⟨-, -, hgreet, -⟩ := request_enqueues_once door 0 .async (.greet "Ada")
  obtain ⟨hdoor, -, -, -, hothers, -⟩ :=
    hgreet 0 ⟨"door", .greeter "Hello" ⟨""⟩⟩ ⟨rfl, rfl, rfl⟩
  obtain ⟨-, -, -, hdropped⟩ := request_enqueues_once door 0 .sync (.append "!")
  refine ⟨hdoor, hothers ⟨0, "sign"⟩ (by decide), hdropped ?_⟩
  rintro ⟨handler, scope, -, hlast, hkind⟩
  obtain rfl := Option.some.inj hlast
  exact absurd hkind nofun

end Carryover.State
