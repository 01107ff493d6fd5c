/-
# What one more declaration adds

Every artifact is made from one declaration and from what is said of the whole component, and only two
of them from all fields: the container and the transfer.  So a spec may grow and what was synthesised
for it stays.  `Spec.GrownByMethod` and `Spec.GrownByField` say what is added at the end of the methods
and at the end of the fields, byte for byte: a method brings its two entry points, the constructor of
its command and the command; a field brings its entries to the container and the transfer, and its
updater if it is lazy.  `artifacts_grow` is that nothing else changes.
-/
import Carryover.Proofs.Artifact.Names
import Carryover.Proofs.Source.Rendered

namespace Carryover

open Source

variable {α : Type}

/-! ## 1. Lists with something put in -/

/-- `large` is `small` with `added` put in somewhere: what was there is there in the same order, and
nothing else has come. -/
structure Inserted (small added large : List α) : Prop where
  kept : small.Sublist large
  complete : large.Perm (small ++ added)

namespace Inserted

variable {xs ys added more small large : List α}

theorem nothing : Inserted xs [] xs where
  kept := List.Sublist.refl _
  complete := by rw [List.append_nil]

theorem behind : Inserted xs added (xs ++ added) where
  kept := List.sublist_append_left ..
  complete := List.Perm.refl _

/-- What is put into two parts is put into the whole. -/
theorem append (h : Inserted xs added ys) (k : Inserted small more large) :
    Inserted (xs ++ small) (added ++ more) (ys ++ large) where
  kept := h.kept.append k.kept
  complete := by
    refine (h.complete.append k.complete).trans ?_
    rw [List.append_assoc, List.append_assoc]
    refine List.Perm.append_left xs ?_
    rw [← List.append_assoc, ← List.append_assoc]
    exact List.perm_append_comm.append_right more

end Inserted

/-! ## 2. Texts with one more entry -/

/-- `large` is `small` with one more entry at the end of a list of entries. -/
def GainsEntry (entries : List String) (entry small large : String) : Prop :=
  ∃ above below, small = above ++ String.join entries ++ below ∧
    large = above ++ String.join (entries ++ [entry]) ++ below

/-- **Lines that are made of declarations** have one entry more with one declaration more. -/
theorem gainsEntry_renderLines (n : Nat) (above below : List Line) (g : α → List Line) (xs : List α)
    (x : α) :
    GainsEntry (xs.map fun x => renderLines n (g x)) (renderLines n (g x))
      (renderLines n (above ++ xs.flatMap g ++ below))
      (renderLines n (above ++ (xs ++ [x]).flatMap g ++ below)) := by
  refine ⟨renderLines n above, renderLines n below, ?_, ?_⟩
  · rw [renderLines_append, renderLines_append, renderLines_flatMap]
  · rw [renderLines_append, renderLines_append, renderLines_flatMap, List.map_append,
      List.map_singleton]

/-! ## 3. One more method -/

namespace Spec

variable (s : Spec) (x : Method) (f : Field)

/-- The functions that are synthesised for one method. -/
def functionsFor : List FunctionArtifact :=
  [(EntryPoint.ofMethod s x .sync).artifact s, (EntryPoint.ofMethod s x .async).artifact s,
    (CommandMaker.ofMethod s x).artifact]

/-- **What a method adds** to the artifacts of a spec. -/
structure GrownByMethod (a b : Artifacts) : Prop where
  functions : Inserted a.functions (s.functionsFor x) b.functions
  types : Inserted a.types [(CommandType.ofMethod s x).artifact s] b.types

/-- A method adds its own artifacts. -/
theorem grownByMethod_artifacts (h : s.hasState = true) :
    s.GrownByMethod x s.artifacts (s.withMethod x).artifacts := by
  have hgrown : (s.withMethod x).hasState = true := h
  have hoverrides : (s.withMethod x).overrides = s.overrides := rfl
  -- Nothing that is made for a method looks at the other methods.
  have hown : (s.withMethod x).ownFunctions
      = (s.methods ++ [x]).flatMap (fun m =>
          [(EntryPoint.ofMethod s m .sync).artifact s, (EntryPoint.ofMethod s m .async).artifact s]) ++
        (s.methods ++ [x]).map (fun m => (CommandMaker.ofMethod s m).artifact) ++
        s.lazyFields.map fun f => (LazyUpdater.ofField f).artifact s := rfl
  have htypes : (s.withMethod x).artifacts.types = (ContainerType.ofSpec s).artifact ::
      (s.methods ++ [x]).map fun m => (CommandType.ofMethod s m).artifact s :=
    (inventory_artifacts hgrown).types
  have hadded : s.functionsFor x = [] ++
      ([(EntryPoint.ofMethod s x .sync).artifact s, (EntryPoint.ofMethod s x .async).artifact s] ++
        [(CommandMaker.ofMethod s x).artifact] ++ []) := rfl
  constructor
  · rw [(inventory_artifacts h).functions, (inventory_artifacts hgrown).functions, hoverrides, hown,
      hadded, List.flatMap_append, List.flatMap_singleton, List.map_append]
    exact Inserted.nothing.append ((Inserted.behind.append Inserted.behind).append Inserted.nothing)
  · rw [(inventory_artifacts h).types, htypes, List.map_append]
    exact Inserted.behind

end Spec

/-! ## 4. One more field -/

/-- The lines of a field in the container. -/
def Field.containerEntry (f : Field) : String :=
  "    /// State value `" ++ f.name ++ "`.\n" ++
    ("    pub " ++ f.name ++ ": " ++ f.type ++ ",\n")

/-- The line of a field in the transfer. -/
def Field.transferEntry (f : Field) : String :=
  "        self.state_container." ++ f.name ++
    " = ::core::clone::Clone::clone(&prev_state_container." ++ f.name ++ ");\n"

namespace Spec

variable (s : Spec) (f : Field)

/-- **What a field adds** to the artifacts of a spec. -/
structure GrownByField (a b : Artifacts) : Prop where
  /-- The transfer has one entry more, and a lazy field has its updater behind all functions. -/
  functions : ∃ above below transfer longer,
    a.functions = above ++ ⟨"transfer_state", .override, transfer⟩ :: below ∧
    b.functions = above ++ ⟨"transfer_state", .override, longer⟩ ::
      (below ++ if f.isLazy then [(LazyUpdater.ofField f).artifact s] else []) ∧
    GainsEntry (s.fields.map (·.transferEntry)) f.transferEntry transfer longer
  /-- The container has one entry more. -/
  types : ∃ commands container longer,
    a.types = ⟨s.containerName, container⟩ :: commands ∧
    b.types = ⟨s.containerName, longer⟩ :: commands ∧
    GainsEntry (s.fields.map (·.containerEntry)) f.containerEntry container longer

/-- What a field is in the container. -/
theorem renderLines_fieldLines :
    renderLines 0 (indent (ContainerType.fieldLines ⟨f.name, f.type⟩)) = f.containerEntry := by
  have hdoc : docText ("State value `" ++ f.name ++ "`.") = "/// State value `" ++ f.name ++ "`." := by
    unfold docText
    rw [if_neg (by simp), ← String.append_assoc, ← String.append_assoc]
    rfl
  have hmargin : margin 1 = "    " := rfl
  unfold ContainerType.fieldLines doc Binding.text Field.containerEntry
  rw [renderLines_indent, renderLines_append, renderLines_line, renderLines_line, hdoc,
    render_of_ne (by simp), render_of_ne (by simp), hmargin]
  simp only [← String.append_assoc, String.reduceAppend]
  simp only [String.append_assoc, String.reduceAppend]

/-- What a field is in the transfer. -/
theorem renderLines_transferLine :
    renderLines 1 (indent (line (transferLine f))) = f.transferEntry := by
  have hmargin : margin 2 = "        " := rfl
  unfold transferLine containerField cloneFunction Field.transferEntry
  rw [renderLines_indent, renderLines_line, render_of_ne (by simp), hmargin]
  simp only [← String.append_assoc, String.reduceAppend]
  simp only [String.append_assoc, String.reduceAppend]

/-- The container of a component is made of its fields between lines that do not depend on them. -/
theorem exists_containerLines : ∃ above below, ∀ fields : List Field,
    (ContainerType.ofSpec { s with fields := fields }).artifact.source = renderLines 0 (above ++
      fields.flatMap (fun f => indent (ContainerType.fieldLines ⟨f.name, f.type⟩)) ++ below) := by
  refine ⟨doc ("State of one `" ++ s.component ++ "` generation.") ++ line "#[derive(Clone)]" ++
      line (opening ("pub struct " ++ s.containerName)),
    line "\x7d" ++ blank ++ (ContainerType.ofSpec s).copyLines, fun fields => ?_⟩
  refine congrArg (renderLines 0) ?_
  unfold ContainerType.recordLines ContainerType.ofSpec block blockUntil indent
  simp only [List.flatMap_map, List.map_flatMap, List.append_assoc]
  rfl

/-- So is its transfer. -/
theorem exists_transferLines : ∃ above below, ∀ fields : List Field,
    transferLines { s with fields := fields } = above ++
      fields.flatMap (fun f => indent (line (transferLine f))) ++ below := by
  refine ⟨line "fn transfer_state(" ++
    indent (
      line "&mut self," ++
      line ("_context: &" ++ s.handles.context ++ ",") ++
      line ("prev_state_container: &dyn " ++ s.handles.container ++ ",")) ++
    line (opening (") -> " ++ s.handles.outcome)) ++
    indent (line ("let prev_state_container = " ++ s.handles.downcastContainer s.containerName ++
      "(prev_state_container)?;")),
    indent (line "Ok(())") ++ line "\x7d", fun fields => ?_⟩
  unfold transferLines block blockUntil indent
  simp only [List.map_append, List.map_flatMap, List.append_assoc]
  rfl

/-- The container has one entry more with one field more. -/
theorem gainsEntry_container : GainsEntry (s.fields.map (·.containerEntry)) f.containerEntry
    (ContainerType.ofSpec s).artifact.source
    (ContainerType.ofSpec (s.withField f)).artifact.source := by
  obtain ⟨above, below, hsource⟩ := s.exists_containerLines
  have hsmall : (ContainerType.ofSpec s).artifact.source = _ := hsource s.fields
  have hlarge : (ContainerType.ofSpec (s.withField f)).artifact.source = _ :=
    hsource (s.fields ++ [f])
  simp only [← renderLines_fieldLines]
  rw [hsmall, hlarge]
  exact gainsEntry_renderLines 0 _ _ _ s.fields f

/-- So has the transfer. -/
theorem gainsEntry_transfer : GainsEntry (s.fields.map (·.transferEntry)) f.transferEntry
    (renderLines 1 (transferLines s)) (renderLines 1 (transferLines (s.withField f))) := by
  obtain ⟨above, below, hlines⟩ := s.exists_transferLines
  have hsmall : transferLines s = _ := hlines s.fields
  have hlarge : transferLines (s.withField f) = _ := hlines (s.fields ++ [f])
  simp only [← renderLines_transferLine]
  rw [hsmall, hlarge]
  exact gainsEntry_renderLines 1 _ _ _ s.fields f

/-- A lazy field is the last of them. -/
theorem lazyFields_withField :
    (s.withField f).lazyFields = s.lazyFields ++ if f.isLazy then [f] else [] := by
  show (s.fields ++ [f]).filter (·.isLazy) = _
  rw [List.filter_append, List.filter_singleton, Bool.cond_eq_ite]
  rfl

/-- What is made for the methods looks at no field, and a lazy field has its updater. -/
theorem ownFunctions_withField : (s.withField f).ownFunctions
    = s.ownFunctions ++ if f.isLazy then [(LazyUpdater.ofField f).artifact s] else [] := by
  have hown : (s.withField f).ownFunctions
      = s.methods.flatMap (fun m =>
          [(EntryPoint.ofMethod s m .sync).artifact s, (EntryPoint.ofMethod s m .async).artifact s]) ++
        s.methods.map (fun m => (CommandMaker.ofMethod s m).artifact) ++
        (s.withField f).lazyFields.map fun f => (LazyUpdater.ofField f).artifact s := rfl
  rw [hown, lazyFields_withField, List.map_append, ← List.append_assoc]
  cases f.isLazy <;> rfl

/-- The accessor and the marker, which look at no field. -/
def fixedOverrides : List FunctionArtifact :=
  [⟨"state_container", .override, renderLines 1 (accessorLines s)⟩] ++
    if s.wantsMarker then [⟨"has_state", .override, renderLines 1 markerLines⟩] else []

theorem overrides_withField : (s.withField f).overrides = s.fixedOverrides ++
    [⟨"transfer_state", .override, renderLines 1 (transferLines (s.withField f))⟩] :=
  rfl

/-- A field adds its entries, and its updater if it is lazy. -/
theorem grownByField_artifacts (h : s.hasState = true) :
    s.GrownByField f s.artifacts (s.withField f).artifacts := by
  have hgrown : (s.withField f).hasState = true := by
    simp [hasState, withField]
  have htypes : (s.withField f).artifacts.types
      = ⟨s.containerName, (ContainerType.ofSpec (s.withField f)).artifact.source⟩ ::
        s.methods.map fun m => (CommandType.ofMethod s m).artifact s :=
    (inventory_artifacts hgrown).types
  constructor
  · refine ⟨s.fixedOverrides, s.ownFunctions, _, _, ?_, ?_, s.gainsEntry_transfer f⟩
    · rw [(inventory_artifacts h).functions]
      exact List.append_assoc ..
    · rw [(inventory_artifacts hgrown).functions, overrides_withField, ownFunctions_withField]
      exact List.append_assoc ..
  · exact ⟨_, _, _, (inventory_artifacts h).types, htypes, s.gainsEntry_container f⟩

end Spec

/-! ## 5. Sound specs -/

/-- **What is synthesised grows with its spec.** -/
theorem artifacts_grow {s : Spec} {a : Artifacts} (hstate : s.hasState = true)
    (h : s.synthesize = .ok a) :
    (∀ x b, (s.withMethod x).synthesize = .ok b → s.GrownByMethod x a b) ∧
    ∀ f b, (s.withField f).synthesize = .ok b → s.GrownByField f a b := by
  obtain ⟨-, rfl⟩ := Spec.synthesize_eq_ok_iff.mp h
  constructor
  · intro x b hb
    obtain ⟨-, rfl⟩ := Spec.synthesize_eq_ok_iff.mp hb
    exact s.grownByMethod_artifacts x hstate
  · intro f b hb
    obtain ⟨-, rfl⟩ := Spec.synthesize_eq_ok_iff.mp hb
    exact s.grownByField_artifacts f hstate

/-- A counter with a method. -/
def bumpCounter : Spec :=
  { Spec.ofComponent "Counter" with
    fields := [⟨"count", "i32", false⟩]
    methods := [⟨"bump", [], [⟨.slot, "count", "i32"⟩]⟩] }

/-- It grows by a method with a slot of the same name, and by a lazy field. -/
theorem grown_bumpCounter :
    bumpCounter.GrownByMethod ⟨"reset", [], [⟨.slot, "count", "i32"⟩]⟩ bumpCounter.artifacts
        (bumpCounter.withMethod ⟨"reset", [], [⟨.slot, "count", "i32"⟩]⟩).artifacts ∧
      bumpCounter.GrownByField ⟨"label", "String", true⟩ bumpCounter.artifacts
        (bumpCounter.withField ⟨"label", "String", true⟩).artifacts := by
  have hsound : ∀ s : Spec, s.defects = [] → s.synthesize = .ok s.artifacts := fun s h =>
    Spec.synthesize_eq_ok_iff.mpr ⟨defects_eq_nil_iff.mp h, rfl⟩
  obtain ⟨hmethod, hfield⟩ := artifacts_grow rfl (hsound bumpCounter (by decide))
  exact ⟨hmethod _ _ (hsound _ (by decide)), hfield _ _ (hsound _ (by decide))⟩

end Carryover
