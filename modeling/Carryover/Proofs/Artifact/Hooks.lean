/-
# What the overrides make of carrying state

A component answers `carryForward` through three hooks: whether it says that it has state, whether
it shows a container, and what it does with the container of the generation before.
`Artifacts.hooks` reads them off the sources of synthesised overrides, statement by statement; a
hook that is not overridden has the answer of a component without state.  `Hooks.carry` is then the
carrying itself, the same as between the components of `Carryover.State.Component`
(`carryForward_eq_carryBy`).

`carry_synthesized` says it of what is synthesised for a spec with state.  The container is always
shown and the transfer always copies every field, but the marker is there only where the spec wants
one, and without it nothing is carried: `exists_state_not_carried` is such a spec.
-/
import Mathlib.Logic.Function.Basic
import Carryover.Proofs.Artifact.Names
import Carryover.Proofs.Artifact.Pieces
import Carryover.Proofs.Files.Path
import Carryover.Proofs.Source.Rendered
import Carryover.State.Component

namespace Carryover

open Source

/-! ## 1. Carrying between generations of any kind -/

namespace State

variable {γ σ : Type}

/-- The generation `next` with the state of `prev`, by the answers of hooks; none if `next` says
that it has no state. -/
def carryBy (hasState : γ → Bool) (expose : γ → Option σ)
    (transfer : γ → σ → Except StateError γ) (prev next : γ) : Except StateError (Option γ) :=
  if hasState next then
    match expose prev with
    | none => .error .missingContainer
    | some old => (transfer next old).map some
  else .ok none

/-- The components that are known here are carried by their hooks. -/
theorem carryForward_eq_carryBy :
    carryForward = carryBy Component.hasState Component.container? Component.transfer := by
  funext prev next
  unfold carryForward carryBy
  cases prev.container? <;> rfl

end State

/-! ## 2. Statements of a source -/

/-- The statements of a source: its lines without the spaces before them. -/
def statements (source : String) : List String :=
  (Text.cutAt '\n' source).map fun l => String.ofList (l.toList.dropWhile (· == ' '))

/-- A line is cut out of the text where it stands between breaks. -/
theorem mem_split_of_line {before line after : List Char}
    (hbefore : ∀ c ∈ before.getLast?, c = '\n') (hline : '\n' ∉ line) :
    line ∈ Text.split (· == '\n') (before ++ (line ++ '\n' :: after)) := by
  have hwhole : Text.split (· == '\n') line = [line] :=
    Text.split_of_forall_not fun c hc => by
      simpa using ne_of_mem_of_not_mem hc hline
  have hcut : line ∈ Text.split (· == '\n') (line ++ '\n' :: after) := by
    rw [Text.split_append_cons (by decide), hwhole]
    exact List.mem_cons_self
  cases hlast : before.getLast? with
  | none =>
    rw [List.getLast?_eq_none_iff.mp hlast]
    exact hcut
  | some c =>
    obtain ⟨above, rfl⟩ := List.getLast?_eq_some_iff.mp hlast
    obtain rfl := hbefore c hlast
    rw [List.append_assoc, List.singleton_append, Text.split_append_cons (by decide)]
    exact List.mem_append_right _ hcut

/-- **The text of every line is a statement**, if it has no break and begins with no space. -/
theorem mem_statements_renderLines {n : Nat} {ls : List Line} {l : Line} (hl : l ∈ ls)
    (hbreak : '\n' ∉ l.text.toList) (hhead : l.text.toList.head? ≠ some ' ') :
    l.text ∈ statements (renderLines n ls) := by
  obtain ⟨above, below, rfl⟩ := List.append_of_mem hl
  have hcut : shown (n + l.depth) l.text ∈ Text.split (· == '\n') ((renderLines n above).toList ++
      (shown (n + l.depth) l.text ++ '\n' :: (renderLines n below).toList)) :=
    mem_split_of_line (getLast?_renderLines n above) (not_mem_shown hbreak)
  have hspaces : (shown (n + l.depth) l.text).dropWhile (· == ' ') = l.text.toList := by
    have htext : l.text.toList.dropWhile (· == ' ') = l.text.toList := by
      cases htext : l.text.toList with
      | nil => rfl
      | cons c cs =>
        have hc : c ≠ ' ' := by simpa [htext] using hhead
        exact List.dropWhile_cons_of_neg (by simpa using hc)
    unfold shown
    split
    · next hempty =>
      rw [hempty]
      rfl
    · rw [List.dropWhile_append_of_pos, htext]
      intro c hc
      rw [List.eq_of_mem_replicate hc]
      rfl
  unfold statements Text.cutAt
  rw [renderLines_append, String.toList_append, toList_renderLines_cons]
  refine List.mem_map.mpr ⟨_, List.mem_map.mpr ⟨_, hcut, rfl⟩, ?_⟩
  rw [String.toList_ofList, hspaces, String.ofList_toList]

/-! ## 3. Reading hooks off their sources -/

/-- The statement that copies a field from the container of the generation before. -/
def copyStatement (name : String) : String :=
  "self." ++ containerField ++ "." ++ name ++ " = " ++ cloneFunction ++
    "(&prev_state_container." ++ name ++ ");"

/-- The field that a statement copies, if it copies one. -/
def copiedField? (statement : String) : Option String :=
  let target := statement.toList.drop ("self." ++ containerField ++ ".").toList.length
  let name := String.ofList (target.takeWhile Text.isWordChar)
  if statement = copyStatement name then some name else none

/-- How a component answers when its state is carried. -/
structure Hooks where
  /-- Does it say that it has state? -/
  hasState : Bool
  /-- Does it show its container? -/
  exposes : Bool
  /-- The fields that it copies from the container of the generation before; none if it leaves
  that container alone. -/
  copied : Option (List String)
  deriving DecidableEq, Repr

namespace Artifacts

/-- The first override of that name. -/
def override? (a : Artifacts) (name : String) : Option FunctionArtifact :=
  (a.placed .override).find? (·.name == name)

/-- **The hooks of a component with these artifacts.**  A hook without an override says that there
is no state. -/
def hooks (a : Artifacts) : Hooks where
  hasState := (a.override? "has_state").any fun f => (statements f.source).contains "true"
  exposes := (a.override? "state_container").any fun f =>
    (statements f.source).contains (someValue ++ "(&self." ++ containerField ++ ")")
  copied := (a.override? "transfer_state").map fun f =>
    (statements f.source).filterMap copiedField?

end Artifacts

namespace Hooks

variable {α : Type}

/-- The values of a generation's fields after the transfer from `old`. -/
def transfer (h : Hooks) (next old : String → α) : String → α :=
  (h.copied.getD []).foldl (fun v name => Function.update v name (old name)) next

/-- The values of the generation `next` after those of `prev` have been carried; none if nothing
is carried. -/
def carry (h : Hooks) (prev next : String → α) : Except State.StateError (Option (String → α)) :=
  State.carryBy (fun _ => h.hasState) (fun v => if h.exposes then some v else none)
    (fun v old => .ok (h.transfer v old)) prev next

/-- After some fields have been copied, each of them has the old value and all others their own. -/
theorem foldl_update_apply (names : List String) (next old : String → α) (name : String) :
    names.foldl (fun v n => Function.update v n (old n)) next name
      = if name ∈ names then old name else next name := by
  induction names generalizing next with
  | nil => rfl
  | cons n names ih =>
    rw [List.foldl_cons, ih]
    by_cases htail : name ∈ names
    · rw [if_pos htail, if_pos (List.mem_cons_of_mem n htail)]
    · by_cases hname : name = n
      · subst hname
        rw [if_neg htail, Function.update_self, if_pos List.mem_cons_self]
      · have hnone : name ∉ n :: names := List.not_mem_cons_of_ne_of_not_mem hname htail
        rw [if_neg htail, if_neg hnone, Function.update_of_ne hname]

/-- A copied field has its old value. -/
theorem transfer_of_mem {h : Hooks} {names : List String} {name : String}
    (hcopied : h.copied = some names) (hname : name ∈ names) (next old : String → α) :
    h.transfer next old name = old name := by
  unfold transfer
  rw [hcopied, Option.getD_some, foldl_update_apply, if_pos hname]

end Hooks

/-- The field of a copying statement is read back. -/
theorem copiedField?_copyStatement {name : String} (h : isIdentifier name = true) :
    copiedField? (copyStatement name) = some name := by
  have htarget : (copyStatement name).toList.drop ("self." ++ containerField ++ ".").toList.length
      = name.toList ++
        (" = " ++ cloneFunction ++ "(&prev_state_container." ++ name ++ ");").toList := by
    unfold copyStatement
    simp only [String.append_assoc, String.toList_append]
    simp
  have hname : ((copyStatement name).toList.drop
      ("self." ++ containerField ++ ".").toList.length).takeWhile Text.isWordChar
        = name.toList := by
    rw [htarget, List.takeWhile_append_of_pos (isWordChar_of_isIdentifier h)]
    simp [Text.isWordChar]
  unfold copiedField?
  simp only [hname, String.ofList_toList, if_true]

/-- A copying statement stands on one line, and does not begin with a space. -/
theorem copyStatement_stands {name : String} (h : isIdentifier name = true) :
    '\n' ∉ (copyStatement name).toList ∧ (copyStatement name).toList.head? ≠ some ' ' := by
  have hname : Inline (fun _ => True) name := inline_name h
  have hstatement : Starts (fun _ => True) false [] (copyStatement name) :=
    ((Starts.fixed (by decide)).append .fixed |>.append .fixed |>.append hname |>.append .fixed
      |>.append inline_cloneFunction |>.append .fixed |>.append hname |>.append .fixed).inline
      (by decide)
  obtain ⟨c, cs, htext, hspace, -⟩ := hstatement.exists_cons
  refine ⟨hstatement.no_break List.not_mem_nil, ?_⟩
  rw [htext]
  exact fun hhead => hspace (Option.some.inj hhead)

/-! ## 4. The overrides of a spec -/

namespace Spec

variable {s : Spec}

/-- The container is shown wherever there is state. -/
theorem exposes_hooks (h : s.hasState = true) : s.artifacts.hooks.exposes = true := by
  have hfirst : s.artifacts.override? "state_container"
      = some ⟨"state_container", .override, renderLines 1 (accessorLines s)⟩ := by
    unfold Artifacts.override?
    rw [(inventory_artifacts h).overrides]
    rfl
  have hshown : someValue ++ "(&self." ++ containerField ++ ")" ∈
      statements (renderLines 1 (accessorLines s)) :=
    mem_statements_renderLines (l := ⟨1, someValue ++ "(&self." ++ containerField ++ ")"⟩)
      (by simp [accessorLines, block, blockUntil, line, indent])
      (by simp [someValue, containerField]) (by simp [someValue])
  unfold Artifacts.hooks
  rw [hfirst]
  simpa using hshown

/-- The marker is there only where it is wanted. -/
theorem hasState_hooks (h : s.hasState = true) : s.artifacts.hooks.hasState = s.wantsMarker := by
  unfold Artifacts.hooks Artifacts.override?
  rw [(inventory_artifacts h).overrides]
  unfold overrides
  cases s.wantsMarker with
  | false => rfl
  | true =>
    have htrue : "true" ∈ statements (renderLines 1 markerLines) :=
      mem_statements_renderLines (l := ⟨1, "true"⟩) (by decide) (by decide) (by decide)
    simpa using htrue

/-- The transfer copies every field. -/
theorem copied_hooks (h : s.hasState = true) (hvalid : ∀ f ∈ s.fields, isIdentifier f.name = true) :
    ∃ names, s.artifacts.hooks.copied = some names ∧ ∀ f ∈ s.fields, f.name ∈ names := by
  have hfind : s.artifacts.override? "transfer_state"
      = some ⟨"transfer_state", .override, renderLines 1 (transferLines s)⟩ := by
    unfold Artifacts.override?
    rw [(inventory_artifacts h).overrides]
    unfold overrides
    cases s.wantsMarker <;> rfl
  have hcopied : s.artifacts.hooks.copied
      = some ((statements (renderLines 1 (transferLines s))).filterMap copiedField?) := by
    unfold Artifacts.hooks
    rw [hfind, Option.map_some]
  refine ⟨_, hcopied, fun f hf => ?_⟩
  have hline : (⟨1, copyStatement f.name⟩ : Line) ∈ transferLines s := by
    have hmem : (⟨0, copyStatement f.name⟩ : Line) ∈
        s.fields.flatMap (fun f => line (transferLine f)) :=
      List.mem_flatMap.mpr ⟨f, hf, List.mem_singleton.mpr rfl⟩
    have hbody := List.mem_map_of_mem (f := fun l : Line => { l with depth := l.depth + 1 }) hmem
    unfold transferLines block blockUntil
    simp only [indent, List.map_append, List.mem_append]
    exact .inr (.inl (.inr (.inl (.inr hbody))))
  have hstatement : copyStatement f.name ∈ statements (renderLines 1 (transferLines s)) :=
    have hstands := copyStatement_stands (hvalid f hf)
    mem_statements_renderLines hline hstands.1 hstands.2
  exact List.mem_filterMap.mpr ⟨_, hstatement, copiedField?_copyStatement (hvalid f hf)⟩

end Spec

/-! ## 5. Carrying the state of a component -/

/-- **A component with state is carried whole where its spec asks for the marker.**  The container
is shown and the transfer overridden for every spec with state; whether anything is carried
depends on the marker alone, and then every declared field is carried. -/
theorem carry_synthesized {s : Spec} {a : Artifacts} (h : s.synthesize = .ok a)
    (hfields : s.fields ≠ []) :
    a.hooks.exposes = true ∧ a.hooks.copied.isSome = true ∧
      (a.hooks.hasState = true ↔ s.wantsMarker = true) ∧
      ∀ (α : Type) (prev next : String → α),
        (s.wantsMarker = true → ∃ new, a.hooks.carry prev next = .ok (some new) ∧
          ∀ f ∈ s.fields, new f.name = prev f.name) ∧
        (s.wantsMarker = false → a.hooks.carry prev next = .ok none) := by
  obtain ⟨hwell, rfl⟩ := Spec.synthesize_eq_ok_iff.mp h
  have hstate : s.hasState = true := by simpa [Spec.hasState] using hfields
  have hexposes := Spec.exposes_hooks hstate
  have hmarker := Spec.hasState_hooks hstate
  obtain ⟨names, hcopied, hnames⟩ := Spec.copied_hooks hstate hwell.fields_valid
  refine ⟨hexposes, by rw [hcopied]; rfl, by rw [hmarker], fun α prev next => ⟨?_, ?_⟩⟩
  · intro hwanted
    refine ⟨s.artifacts.hooks.transfer next prev, ?_, fun f hf =>
      Hooks.transfer_of_mem hcopied (hnames f hf) next prev⟩
    unfold Hooks.carry State.carryBy
    rw [hmarker, hwanted, hexposes]
    rfl
  · intro hunwanted
    unfold Hooks.carry State.carryBy
    rw [hmarker, hunwanted]
    rfl

/-- A counter's spec, with or without the marker. -/
def plainCounter (marker : Bool) : Spec :=
  { Spec.ofComponent "Counter" with
    fields := [⟨"count", "i32", false⟩]
    wantsMarker := marker }

/-- It is accepted either way. -/
theorem synthesize_plainCounter (marker : Bool) :
    (plainCounter marker).synthesize = .ok (plainCounter marker).artifacts := by
  have hsound : (plainCounter marker).defects = [] := by
    cases marker <;> decide
  exact Spec.synthesize_eq_ok_iff.mpr ⟨defects_eq_nil_iff.mp hsound, rfl⟩

/-- With the marker, a counter at seven hands its count to a new one. -/
theorem carry_plainCounter :
    (plainCounter true).synthesize = .ok (plainCounter true).artifacts ∧
      (plainCounter true).fields ≠ [] ∧
      ∃ new, (plainCounter true).artifacts.hooks.carry (fun _ => 7) (fun _ => 0) = .ok (some new) ∧
        new "count" = 7 := by
  have hsynthesize := synthesize_plainCounter true
  have hfields : (plainCounter true).fields ≠ [] := List.cons_ne_nil _ _
  obtain ⟨-, -, -, hcarry⟩ := carry_synthesized hsynthesize hfields
  obtain ⟨new, hnew, hcount⟩ := (hcarry Nat (fun _ => 7) (fun _ => 0)).1 rfl
  have hmem : ⟨"count", "i32", false⟩ ∈ (plainCounter true).fields := List.mem_singleton.mpr rfl
  exact ⟨hsynthesize, hfields, new, hnew, hcount _ hmem⟩

/-- **Without the marker state is lost**, although the container is shown and the transfer
overridden. -/
theorem exists_state_not_carried :
    ¬ ∀ (s : Spec) (a : Artifacts), s.synthesize = .ok a → s.fields ≠ [] →
      (a.hooks.hasState = true ↔ a.hooks.exposes = true ∧ a.hooks.copied.isSome = true) ∧
        ∀ prev next : String → Nat, ∃ new, a.hooks.carry prev next = .ok (some new) ∧
          ∀ f ∈ s.fields, new f.name = prev f.name := by
  intro hall
  obtain ⟨-, hcarried⟩ := hall (plainCounter false) _ (synthesize_plainCounter false)
    (List.cons_ne_nil _ _)
  obtain ⟨new, hnew, -⟩ := hcarried (fun _ => 7) (fun _ => 0)
  have hmarker : (plainCounter false).artifacts.hooks.hasState = false :=
    Spec.hasState_hooks (s := plainCounter false) rfl
  unfold Hooks.carry State.carryBy at hnew
  rw [hmarker] at hnew
  exact absurd hnew nofun

end Carryover
