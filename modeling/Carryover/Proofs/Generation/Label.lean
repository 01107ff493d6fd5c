/-
# What overwriting leaves of a label

A label's text grows with every append and is replaced by every overwrite, while every append counts
as an edit.  So of the text only what comes behind the last overwrite is left, and of the edits all
(`effects_label`).  `textAfter` says what is left of the text, `suffixes` what was appended.

Edits are counted in 32 bits.  A run of requests goes through if there is room for the edits of all,
and otherwise it aborts at the append for which there is none (`abort_of_append`), with the label as
the requests before have left it.

`label_after_requests` puts both together.  That an overwrite can be left out if another one comes
behind it is read off the closed form: what comes behind decides the text (`textAfter_congr`).
-/
import Carryover.Proofs.Generation.Life
import Mathlib.Data.List.DropRight

namespace Carryover.State

/-! ## 1. What requests say of a label -/

/-- The text that a request appends. -/
def Request.suffix? : Request → Option String
  | append suffix => some suffix
  | _ => none

/-- The text that a request puts in the place of all before. -/
def Request.overwrite? : Request → Option String
  | overwriteText text => some text
  | _ => none

/-- What requests append, in order. -/
def suffixes (asked : List Asked) : List String :=
  asked.filterMap (·.request.suffix?)

/-- **The text of a label after requests**: what overwrote it last, or the text it had, and behind
that what was appended since. -/
def textAfter (text : String) (asked : List Asked) : String :=
  ((asked.filterMap (·.request.overwrite?)).getLast?.getD text) ++
    String.join (suffixes (asked.rtakeWhile (·.request.overwrite?.isNone)))

theorem suffixes_append (xs ys : List Asked) : suffixes (xs ++ ys) = suffixes xs ++ suffixes ys :=
  List.filterMap_append

/-- Every append counts as an edit, and nothing else does. -/
theorem editsOf_eq (asked : List Asked) : editsOf asked = (suffixes asked).length := by
  induction asked with
  | nil => rfl
  | cons x asked ih =>
    obtain ⟨timing, request, scope⟩ := x
    cases request with
    | append suffix =>
      show 1 + editsOf asked = (suffixes asked).length + 1
      rw [ih, Nat.add_comm]
    | _ =>
      show 0 + editsOf asked = (suffixes asked).length
      rw [ih, Nat.zero_add]

/-- An append makes the text longer. -/
theorem textAfter_concat_append (text : String) (asked : List Asked) {x : Asked} {suffix : String}
    (h : x.request = .append suffix) :
    textAfter text (asked ++ [x]) = textAfter text asked ++ suffix := by
  simp [textAfter, suffixes, h, Request.overwrite?, Request.suffix?, String.append_assoc]

/-- An overwrite leaves nothing of what was there. -/
theorem textAfter_concat_overwrite (text : String) (asked : List Asked) {x : Asked} {new : String}
    (h : x.request = .overwriteText new) : textAfter text (asked ++ [x]) = new := by
  simp [textAfter, suffixes, h, Request.overwrite?]

/-- Any other request leaves the text alone. -/
theorem textAfter_concat_other (text : String) (asked : List Asked) {x : Asked}
    (happend : x.request.suffix? = none) (hoverwrite : x.request.overwrite? = none) :
    textAfter text (asked ++ [x]) = textAfter text asked := by
  simp [textAfter, suffixes, happend, hoverwrite]

/-- Requests made in two parts: the second part begins with the text that the first part leaves. -/
theorem textAfter_append (text : String) (xs ys : List Asked) :
    textAfter text (xs ++ ys) = textAfter (textAfter text xs) ys := by
  induction ys using List.reverseRecOn with
  | nil => simp [textAfter, suffixes]
  | append_singleton ys y ih =>
    rw [← List.append_assoc]
    obtain ⟨timing, request, scope⟩ := y
    cases request with
    | append suffix => rw [textAfter_concat_append _ _ rfl, textAfter_concat_append _ _ rfl, ih]
    | overwriteText new =>
      rw [textAfter_concat_overwrite _ _ rfl, textAfter_concat_overwrite _ _ rfl]
    | _ => rw [textAfter_concat_other _ _ rfl rfl, textAfter_concat_other _ _ rfl rfl, ih]

/-- **Behind an overwrite it does not matter what the text was.** -/
theorem textAfter_congr {asked : List Asked} (h : ∃ x ∈ asked, x.request.overwrite?.isSome)
    (text text' : String) : textAfter text asked = textAfter text' asked := by
  have hsome : (asked.filterMap (·.request.overwrite?)).getLast?.isSome := by
    obtain ⟨x, hx, hnew⟩ := h
    obtain ⟨new, hnew⟩ := Option.isSome_iff_exists.mp hnew
    have hmem : new ∈ asked.filterMap (·.request.overwrite?) := List.mem_filterMap.mpr ⟨x, hx, hnew⟩
    rw [List.getLast?_isSome]
    exact List.ne_nil_of_mem hmem
  obtain ⟨new, hnew⟩ := Option.isSome_iff_exists.mp hsome
  unfold textAfter
  rw [hnew, Option.getD_some, Option.getD_some]

/-! ## 2. The effects of requests on a label -/

/-- **The state of a label after requests**: what is left of the text, and all edits. -/
theorem effects_label (text : String) (edits : UInt32) (asked : List Asked) :
    effects asked (.label ⟨text, edits⟩)
      = .label ⟨textAfter text asked, edits + UInt32.ofNat (suffixes asked).length⟩ := by
  induction asked using List.reverseRecOn with
  | nil => simp [effects, textAfter, suffixes]
  | append_singleton asked x ih =>
    rw [effects_concat, ih, suffixes_append]
    obtain ⟨timing, request, scope⟩ := x
    cases request with
    | append suffix =>
      have hcount : UInt32.ofNat (suffixes asked ++ [suffix]).length
          = UInt32.ofNat (suffixes asked).length + 1 := by
        rw [List.length_append, UInt32.ofNat_add]
        rfl
      rw [textAfter_concat_append _ _ rfl]
      show Container.label ⟨_, _⟩ = Container.label ⟨_, edits + UInt32.ofNat (_ ++ [suffix]).length⟩
      rw [hcount, UInt32.add_assoc]
    | overwriteText new =>
      rw [textAfter_concat_overwrite _ _ rfl]
      show Container.label ⟨_, _⟩ = Container.label ⟨_, edits + UInt32.ofNat (_ ++ []).length⟩
      rw [List.append_nil]
    | _ =>
      rw [textAfter_concat_other _ _ rfl rfl]
      show Container.label ⟨_, _⟩ = Container.label ⟨_, edits + UInt32.ofNat (_ ++ []).length⟩
      rw [List.append_nil]

/-- With room for them, all edits are counted. -/
theorem toNat_edits {edits : UInt32} {n : Nat} (h : edits.toNat + n < UInt32.size) :
    (edits + UInt32.ofNat n).toNat = edits.toNat + n := by
  have hsize : UInt32.size = 2 ^ 32 := rfl
  rw [UInt32.toNat_add, UInt32.toNat_ofNat']
  omega

/-! ## 3. The append that is too many -/

/-- Among requests that append often enough, one is the append behind `n` others. -/
theorem exists_append_behind (asked : List Asked) (n : Nat) (h : n < (suffixes asked).length) :
    ∃ before x after suffix, asked = before ++ x :: after ∧ x.request = .append suffix ∧
      (suffixes before).length = n := by
  induction asked generalizing n with
  | nil => exact absurd h (Nat.not_lt_zero n)
  | cons x asked ih =>
    cases hx : x.request.suffix? with
    | none =>
      have hrest : suffixes (x :: asked) = suffixes asked := List.filterMap_cons_none hx
      rw [hrest] at h
      obtain ⟨before, y, after, suffix, rfl, hy, hn⟩ := ih n h
      refine ⟨x :: before, y, after, suffix, rfl, hy, ?_⟩
      rw [← hn]
      exact congrArg List.length (List.filterMap_cons_none hx)
    | some own =>
      have hrest : suffixes (x :: asked) = own :: suffixes asked := List.filterMap_cons_some hx
      cases n with
      | zero =>
        obtain ⟨timing, request, scope⟩ := x
        cases request with
        | append suffix => exact ⟨[], _, asked, suffix, rfl, rfl, rfl⟩
        | _ => exact absurd hx nofun
      | succ n =>
        rw [hrest, List.length_cons] at h
        obtain ⟨before, y, after, suffix, rfl, hy, hn⟩ := ih n (Nat.lt_of_succ_lt_succ h)
        refine ⟨x :: before, y, after, suffix, rfl, hy, ?_⟩
        have hbefore : suffixes (x :: before) = own :: suffixes before :=
          List.filterMap_cons_some hx
        rw [hbefore, List.length_cons, hn]

section Runs

variable {a : Address} {edits : UInt32} {asked before after : List Asked} {x : Asked}
  {suffix : String} {q : Queues Update}

/-- Without room for one more edit, an append aborts. -/
theorem run_append_of_full {s : LabelState} (h : s.edits.toNat + 1 = UInt32.size) :
    (Command.append suffix).run (.label s) (.label s) = .ok none := by
  have hnext : nextEdit? s.edits = none := by
    unfold nextEdit?
    rw [if_neg (by omega)]
  show Except.ok ((appendText? suffix (.of s.text) (.of s.edits)).map _) = _
  simp only [appendText?, Box.of, Option.getD_some, hnext]
  rfl

/-- With room for all edits, the requests go through. -/
theorem applyAsked_label (text : String) (edits : UInt32) (hempty : q.get a = [])
    (hfor : ∀ x ∈ asked, x.IsFor .label)
    (hroom : edits.toNat + (suffixes asked).length < UInt32.size) :
    (applyAsked a ⟨.label ⟨text, edits⟩, q⟩ asked).2 = .ok asked.length ∧
      (applyAsked a ⟨.label ⟨text, edits⟩, q⟩ asked).1.component
        = .label ⟨textAfter text asked, edits + UInt32.ofNat (suffixes asked).length⟩ := by
  rw [← editsOf_eq] at hroom
  obtain ⟨after, hrun, hafter, hkind, -⟩ :=
    applyAsked_eq ⟨.label ⟨text, edits⟩, q⟩ rfl hempty hfor hroom
  rw [effects_label] at hafter
  obtain ⟨s, hs⟩ := label_of_kind hkind
  rw [hs] at hafter
  obtain rfl := Container.label.inj (Option.some.inj hafter)
  rw [hrun]
  exact ⟨rfl, hs⟩

/-- **The run aborts at the append that is too many**, and leaves what the requests before it have
made of the label. -/
theorem abort_of_append (text : String) (hempty : q.get a = [])
    (hfor : ∀ y ∈ before ++ x :: after, y.IsFor .label) (hx : x.request = .append suffix)
    (hfull : edits.toNat + (suffixes before).length + 1 = UInt32.size) :
    (applyAsked a ⟨.label ⟨text, edits⟩, q⟩ (before ++ x :: after)).2 = .error .aborted ∧
      (applyAsked a ⟨.label ⟨text, edits⟩, q⟩ (before ++ x :: after)).1.component
        = .label ⟨textAfter text before, edits + UInt32.ofNat (suffixes before).length⟩ := by
  have hroom : edits.toNat + editsOf before < UInt32.size := by
    rw [editsOf_eq]
    omega
  obtain ⟨depth, hrun⟩ :=
    exists_applyAsked_eq ⟨.label ⟨text, edits⟩, q⟩ hempty hfor
  obtain ⟨c, hc, hkind, hthrough⟩ := through_pending (applyWithin depth) before
    ⟨.label ⟨text, edits⟩, ((before ++ x :: after).foldl (ask a) q).set a []⟩ (.label ⟨text, edits⟩)
    rfl (fun y hy => hfor y (List.mem_append_left _ hy)) hroom
  rw [effects_label] at hc
  obtain ⟨s, rfl⟩ := label_of_kind hkind
  have hs : s = ⟨textAfter text before, edits + UInt32.ofNat (suffixes before).length⟩ :=
    Container.label.inj (Option.some.inj hc)
  have hcommand : x.command = .append suffix := by
    unfold Asked.command
    rw [hx]
  have hlast : s.edits.toNat + 1 = UInt32.size := by
    rw [hs, toNat_edits (by omega)]
    exact hfull
  have hstep : ∀ live : Live Component Update, live.component = .label s →
      x.pending.update.run (applyWithin depth) (.label s) live = (live, .error .aborted) := by
    intro live hlive
    show live.change (x.command.run _ live.component) = _
    rw [hcommand, hlive, run_append_of_full hlast]
    rfl
  have hshown : (Component.label s).container? = some (.label s) := rfl
  rw [hrun, List.map_append, List.map_cons, hthrough.replay_append,
    replay_cons_of_aborted hshown (hstep _ rfl)]
  exact ⟨rfl, congrArg Component.label hs⟩

/-- Without room for all edits, the requests up to such an append go through, and the run aborts
there. -/
theorem exists_abort (text : String) (hempty : q.get a = []) (hfor : ∀ x ∈ asked, x.IsFor .label)
    (hover : UInt32.size ≤ edits.toNat + (suffixes asked).length) :
    let run := applyAsked a ⟨.label ⟨text, edits⟩, q⟩
    (run asked).2 = .error .aborted ∧ ∃ before x after suffix, asked = before ++ x :: after ∧
      x.request = .append suffix ∧ edits.toNat + (suffixes before).length + 1 = UInt32.size ∧
      (run before).2 = .ok before.length ∧ (run (before ++ [x])).2 = .error .aborted ∧
      (run asked).1.component = (run before).1.component := by
  intro run
  have hlt := edits.toNat_lt_size
  obtain ⟨before, x, after, suffix, rfl, hx, hn⟩ :=
    exists_append_behind asked (UInt32.size - 1 - edits.toNat) (by omega)
  have hfull : edits.toNat + (suffixes before).length + 1 = UInt32.size := by omega
  have hat : ∀ y ∈ before ++ [x], y.IsFor .label := fun y hy =>
    hfor y (List.append_cons before x after ▸ List.mem_append_left after hy)
  obtain ⟨houtcome, hcomponent⟩ := abort_of_append text hempty hfor hx hfull
  obtain ⟨hbefore, hleft⟩ := applyAsked_label text edits hempty
    (fun y hy => hat y (List.mem_append_left _ hy)) (by omega)
  exact ⟨houtcome, before, x, after, suffix, rfl, hx, hfull, hbefore,
    (abort_of_append text hempty hat hx hfull).1, hcomponent.trans hleft.symm⟩

end Runs

/-! ## 4. The law -/

/-- What is left of a label does not depend on an overwrite behind which there is another. -/
theorem left_of_leaving_out (before : List Asked) {after : List Asked} {x : Asked}
    (hx : x.request.overwrite?.isSome) (hafter : ∃ y ∈ after, y.request.overwrite?.isSome)
    (text : String) :
    textAfter text (before ++ x :: after) = textAfter text (before ++ after) ∧
      suffixes (before ++ x :: after) = suffixes (before ++ after) := by
  constructor
  · rw [textAfter_append, textAfter_append, ← List.singleton_append, textAfter_append]
    exact textAfter_congr hafter _ _
  · have hbare : x.request.suffix? = none := by
      obtain ⟨timing, request, scope⟩ := x
      cases request with
      | append suffix => exact absurd hx nofun
      | _ => rfl
    rw [suffixes_append, suffixes_append]
    exact congrArg _ (List.filterMap_cons_none hbare)

/-- The component that a run ends with, if it gets to its end. -/
def endOf {γ υ : Type} (run : Run γ υ) : Option γ :=
  match run.2 with
  | .ok _ => some run.1.component
  | .error _ => none

/-- **A label after requests.**  If there is room to count the edits of all of them, every request is
applied; the text is then what overwrote it last, or what it was, with what was appended since, and
the edits are counted all, also of appends that were overwritten.  Otherwise the run aborts at the
first append for which there is no room, and leaves what the requests before it have made of the
label.  So the end of a run does not depend on an overwrite behind which there is another. -/
theorem label_after_requests (a : Address) (text : String) (edits : UInt32) (asked : List Asked)
    (q : Queues Update) (hempty : q.get a = []) (hfor : ∀ x ∈ asked, x.IsFor .label) :
    let run := applyAsked a ⟨.label ⟨text, edits⟩, q⟩
    (edits.toNat + (suffixes asked).length < UInt32.size →
      (run asked).2 = .ok asked.length ∧ ∃ n : UInt32,
        n.toNat = edits.toNat + (suffixes asked).length ∧
        (run asked).1.component = .label ⟨textAfter text asked, n⟩) ∧
    (UInt32.size ≤ edits.toNat + (suffixes asked).length →
      (run asked).2 = .error .aborted ∧ ∃ before x after suffix, asked = before ++ x :: after ∧
        x.request = .append suffix ∧ edits.toNat + (suffixes before).length + 1 = UInt32.size ∧
        (run before).2 = .ok before.length ∧ (run (before ++ [x])).2 = .error .aborted ∧
        (run asked).1.component = (run before).1.component) ∧
    ∀ before x after, asked = before ++ x :: after → x.request.overwrite?.isSome →
      (∃ y ∈ after, y.request.overwrite?.isSome) →
      endOf (run asked) = endOf (run (before ++ after)) := by
  intro run
  refine ⟨fun hroom => ?_, exists_abort text hempty hfor, fun before x after hasked hx hafter => ?_⟩
  · obtain ⟨houtcome, hcomponent⟩ := applyAsked_label text edits hempty hfor hroom
    exact ⟨houtcome, _, toNat_edits hroom, hcomponent⟩
  · subst hasked
    have hcut : ∀ y ∈ before ++ after, y.IsFor .label := fun y hy =>
      hfor y ((List.sublist_cons_self x after).append_left before |>.subset hy)
    obtain ⟨htext, hsuffixes⟩ := left_of_leaving_out before hx hafter text
    unfold endOf
    by_cases hroom : edits.toNat + (suffixes (before ++ x :: after)).length < UInt32.size
    · obtain ⟨houtcome, hcomponent⟩ := applyAsked_label text edits hempty hfor hroom
      obtain ⟨houtcome', hcomponent'⟩ :=
        applyAsked_label text edits hempty hcut (hsuffixes ▸ hroom)
      rw [houtcome, houtcome', hcomponent, hcomponent', hsuffixes, htext]
    · have hover := Nat.le_of_not_lt hroom
      rw [(exists_abort text hempty hfor hover).1, (exists_abort text hempty hcut (hsuffixes ▸ hover)).1]

/-- A sign is written on, painted over twice, and written on again. -/
def repainted : List Asked :=
  let sign := Component.label ⟨"", 0⟩
  [⟨.sync, .append "!", sign⟩, ⟨.sync, .overwriteText "Open", sign⟩,
    ⟨.async, .overwriteText "Closed", sign⟩, ⟨.async, .append "?", sign⟩]

/-- The last paint shows with what was written on it, both writings are counted, and the first paint
can be left out.  With room to count one writing only, the run aborts. -/
theorem sign_after_repainted :
    let run edits := applyAsked ⟨0, "sign"⟩ ⟨.label ⟨"Hello", edits⟩, .empty⟩
    (∃ n : UInt32, n.toNat = 7 ∧ (run 5 repainted).1.component = .label ⟨"Closed?", n⟩) ∧
    endOf (run 5 repainted) = endOf (run 5 (repainted.eraseIdx 1)) ∧
    (run 4294967294 repainted).2 = .error .aborted := by
  have hfor : ∀ x ∈ repainted, x.IsFor .label := by
    simp [repainted, Asked.IsFor, Request.kind, Component.kind]
  obtain ⟨hfits, -, hcut⟩ := label_after_requests ⟨0, "sign"⟩ "Hello" 5 repainted .empty rfl hfor
  obtain ⟨-, hover, -⟩ :=
    label_after_requests ⟨0, "sign"⟩ "Hello" 4294967294 repainted .empty rfl hfor
  obtain ⟨-, n, hn, hcomponent⟩ := hfits (by decide)
  refine ⟨⟨n, hn, hcomponent⟩, ?_, (hover (by decide)).1⟩
  exact hcut [_] _ [_, _] rfl rfl ⟨_, List.mem_cons_self, rfl⟩

end Carryover.State
