/-
# The layout of what is synthesised

Brackets and indentation agree in everything that is synthesised.  Each synthesizer gives well laid
lines (`Carryover.Proofs.Source.Layout`), whatever the shape of the spec: with or without slots,
captured parameters and type parameters, injected or not.

There is one lemma for each piece of source that the synthesizers know, from the inside out; each
goes along the texts of its lines.  `Spec.IsInline.laidOut` collects them for the artifacts:
functions are laid out for the inside of an implementation, and types for the margin.
-/
import Carryover.Artifact.Inventory
import Carryover.Proofs.Artifact.Pieces

namespace Carryover

open Source

variable {Fair : (Bracket → Bool) → Prop} {s : Spec}

/-! ## 1. Containers -/

namespace Spec.IsInline

variable (hs : s.IsInline Fair)
include hs

/-- A line can begin with the path of the spec. -/
theorem path : Starts Fair false [] s.path :=
  starts_path hs.path_valid

theorem containerName : Inline Fair s.containerName :=
  ((inline_name hs.component).append .fixed).inline (by decide)

/-- The record of a component's state. -/
theorem wellLaid_recordLines : WellLaid Fair (ContainerType.ofSpec s).recordLines := by
  have hfields : WellLaid Fair
      ((ContainerType.ofSpec s).fields.flatMap ContainerType.fieldLines) := by
    refine .flatMap fun b hb => ?_
    obtain ⟨f, hf, rfl⟩ := List.mem_map.mp hb
    have hname : Inline Fair f.name := inline_name (hs.field_name f hf)
    have hdoc : Inline Fair ("State value `" ++ f.name ++ "`.") :=
      (Fills.fixed.append hname |>.append .fixed).inline (by decide)
    have hbinding : Inline Fair (Binding.text ⟨f.name, f.type⟩) :=
      inline_binding (hs.field_name f hf) (hs.field_type f hf)
    exact (WellLaid.doc hdoc).append (.single
      ((Starts.fixed (by decide)).append hbinding |>.append .fixed) (by decide))
  have hdoc : Inline Fair ("State of one `" ++ s.component ++ "` generation.") :=
    (Fills.fixed.append (inline_name hs.component) |>.append .fixed).inline (by decide)
  exact ((WellLaid.doc hdoc).append (.fixed (by decide) (by decide))).append
    (.block ((Starts.fixed (by decide)).append hs.containerName) (by decide) hfields)

/-- The copying of a container. -/
theorem wellLaid_copyLines : WellLaid Fair (ContainerType.ofSpec s).copyLines := by
  have hbox : WellLaid Fair (line (boxType ++ "::new(" ++ cloneFunction ++ "(self))")) :=
    .single (starts_boxType.append .fixed |>.append inline_cloneFunction |>.append .fixed)
      (by decide)
  have hfunction : WellLaid Fair (block ("fn clone_box(&self) -> " ++ boxType ++ "<dyn " ++
      s.handles.container ++ ">") (line (boxType ++ "::new(" ++ cloneFunction ++ "(self))"))) :=
    .block ((Starts.fixed (by decide)).append starts_boxType.toFills |>.append .fixed
      |>.append hs.handles.container |>.append .fixed) (by decide) hbox
  exact .block ((Starts.fixed (by decide)).append hs.handles.container |>.append .fixed
    |>.append hs.containerName) (by decide) hfunction

/-- The function that shows the container. -/
theorem wellLaid_accessorLines : WellLaid Fair (accessorLines s) := by
  have hbody : WellLaid Fair (line (someValue ++ "(&self." ++ containerField ++ ")")) :=
    .single (starts_someValue.append .fixed |>.append .fixed |>.append .fixed) (by decide)
  exact .block ((Starts.fixed (by decide)).append inline_optionType |>.append .fixed
    |>.append hs.handles.container |>.append .fixed) (by decide) hbody

/-- The transfer. -/
theorem wellLaid_transferLines : WellLaid Fair (transferLines s) := by
  have hfields : WellLaid Fair (s.fields.flatMap fun f => line (transferLine f)) := by
    refine .flatMap fun f hf => ?_
    have hname : Inline Fair f.name := inline_name (hs.field_name f hf)
    exact .single ((Starts.fixed (by decide)).append .fixed |>.append .fixed |>.append hname
      |>.append .fixed |>.append inline_cloneFunction |>.append .fixed |>.append hname
      |>.append .fixed) (by decide)
  have hparams : WellLaid Fair (line "&mut self," ++
      line ("_context: &" ++ s.handles.context ++ ",") ++
      line ("prev_state_container: &dyn " ++ s.handles.container ++ ",")) := by
    refine (WellLaid.append (.fixed (by decide) (by decide)) ?_).append ?_
    · exact .single ((Starts.fixed (by decide)).append hs.handles.context |>.append .fixed)
        (by decide)
    · exact .single ((Starts.fixed (by decide)).append hs.handles.container |>.append .fixed)
        (by decide)
  have hdowncast : WellLaid Fair (line ("let prev_state_container = " ++
      s.handles.downcastContainer s.containerName ++ "(prev_state_container)?;")) :=
    .single ((Starts.fixed (by decide)).append (hs.handles.downcastContainer hs.containerName)
      |>.append .fixed) (by decide)
  exact .signature (.fixed (by decide)) (by decide) hparams
    ((Starts.fixed (by decide)).append hs.handles.outcome) (by decide)
    ((hdowncast.append hfields).append (.fixed (by decide) (by decide)))

/-- The lines that find the concrete container and component. -/
theorem wellLaid_downcastLines (c : CommandType) : WellLaid Fair (c.downcastLines s) := by
  have hcontainer := hs.handles.downcastContainer hs.containerName
  have hcomponent := hs.handles.downcastComponentMut (inline_name hs.component)
  unfold CommandType.downcastLines
  split
  · exact .nil
  · refine .append ?_ ?_
    · exact .single ((Starts.fixed (by decide)).append hcontainer |>.append .fixed) (by decide)
    · exact .single ((Starts.fixed (by decide)).append hcomponent |>.append .fixed) (by decide)

end Spec.IsInline

/-- The presence marker. -/
theorem wellLaid_markerLines : WellLaid Fair markerLines :=
  .block (.fixed (by decide)) (by decide) (.fixed (by decide) (by decide))

/-! ## 2. Entry points -/

namespace Spec.IsInline

variable {m : Method} (hs : s.IsInline Fair) (hm : m.IsInline Fair)
include hs hm

/-- The name of a method with the path of its spec. -/
theorem target : Inline Fair (s.path ++ "::" ++ m.name) :=
  (hs.path.toFills.append .fixed |>.append (inline_name hm.name)).inline (by decide)

/-- The function that requests an update. -/
theorem wellLaid_entryPoint (timing : Timing) :
    WellLaid Fair ((EntryPoint.ofMethod s m timing).lines s) := by
  have hname : Inline Fair (entryPointName m.name timing) := by
    cases timing with
    | sync => exact inline_name hm.name
    | async => exact ((inline_name hm.name).append .fixed).inline (by decide)
  have hformals : Inline Fair (commaList (("c: &" ++ s.handles.context) ::
      (m.captured.map (·.binding)).map (·.text))) := by
    refine inline_commaList (List.forall_mem_cons.mpr ⟨?_, fun t ht => ?_⟩)
    · exact (Fills.fixed.append hs.handles.context).inline (by decide)
    · obtain ⟨b, hb, rfl⟩ := List.mem_map.mp ht
      obtain ⟨p, hp, rfl⟩ := List.mem_map.mp hb
      exact hm.captured_binding hp
  have hactuals : Inline Fair (commaList (m.captured.map (·.name))) := by
    refine inline_commaList fun t ht => ?_
    obtain ⟨p, hp, rfl⟩ := List.mem_map.mp ht
    exact inline_name (hm.param_name p (List.mem_of_mem_filter hp))
  have hqueue : Inline Fair (EntryPoint.queueName timing) := by
    unfold EntryPoint.queueName
    split <;> exact Fills.fixed.inline (by decide)
  have hdispatch : Inline Fair (EntryPoint.dispatchName timing) := by
    unfold EntryPoint.dispatchName
    split <;> exact Fills.fixed.inline (by decide)
  have hdowncast := hs.handles.downcastComponent (inline_name hs.component)
  have hscope : WellLaid Fair (EntryPoint.scopeLines s "component") :=
    .blockUntil ((Starts.fixed (by decide)).append starts_someValue.toFills |>.append .fixed
        |>.append .fixed |>.append .fixed |>.append hdowncast |>.append .fixed) (by decide)
      (.fixed (by decide) (by decide)) (by decide) (by decide)
  have hmake : WellLaid Fair (line ("let state_update = component." ++ constructorName m.name ++
      "(" ++ commaList (m.captured.map (·.name)) ++ ");")) :=
    .single ((Starts.fixed (by decide)).append hm.constructorName |>.append .fixed
      |>.append hactuals |>.append .fixed) (by decide)
  have hrequest : WellLaid Fair (line ("c." ++ EntryPoint.dispatchName timing ++ "(" ++ boxType ++
      "::new(state_update));")) :=
    .single ((Starts.fixed (by decide)).append hdispatch |>.append .fixed
      |>.append starts_boxType.toFills |>.append .fixed) (by decide)
  have htitle : WellLaid Fair (doc ("Requests `" ++ (s.path ++ "::" ++ m.name) ++
      "` through the " ++ EntryPoint.queueName timing ++ " queue.")) :=
    .doc ((Fills.fixed.append (hs.target hm) |>.append .fixed |>.append hqueue
      |>.append .fixed).inline (by decide))
  have hempty : WellLaid Fair (doc "") := .doc (Fills.fixed.inline (by decide))
  have hnote : WellLaid Fair
      (doc "Does nothing when `c` is no longer attached to a component.") :=
    .doc (Fills.fixed.inline (by decide))
  exact ((htitle.append hempty).append hnote).append (.block
    ((Starts.fixed (by decide)).append hname |>.append hm.genericParams |>.append .fixed
      |>.append hformals |>.append .fixed) (by decide)
    ((hscope.append hmake).append hrequest))

end Spec.IsInline

/-! ## 3. Commands -/

/-- The lines that fill a box. -/
theorem wellLaid_seedLines {h : Handles} {box : Binding} {seed : String} (hh : h.AreInline Fair)
    (hname : isIdentifier box.name = true) (htype : Inline Fair box.type)
    (hseed : Inline Fair seed) : WellLaid Fair (seedLines h box seed) := by
  refine .append ?_ ?_
  · exact .single ((Starts.fixed (by decide)).append (inline_name hname) |>.append .fixed
      |>.append (hh.boxOf htype) |>.append .fixed |>.append (hh.fixedItem (by decide))
      |>.append .fixed) (by decide)
  · exact .single ((starts_name hname).append .fixed |>.append hseed |>.append .fixed) (by decide)

/-- The lines that empty a box. -/
theorem wellLaid_storeLines {box : String} (hname : isIdentifier box = true) :
    WellLaid Fair (storeLines box) := by
  have hbox : Inline Fair box := inline_name hname
  have hstore : WellLaid Fair (line ("new_component." ++ containerField ++ "." ++ box ++
      " = value;")) :=
    .single ((Starts.fixed (by decide)).append .fixed |>.append .fixed |>.append hbox
      |>.append .fixed) (by decide)
  exact .block ((Starts.fixed (by decide)).append starts_someValue.toFills |>.append .fixed
    |>.append hbox |>.append .fixed) (by decide) hstore

/-- The type of a method's command with its arguments. -/
theorem Method.IsInline.applied {m : Method} (hm : m.IsInline Fair) (s : Spec) :
    Inline Fair (CommandType.ofMethod s m).applied :=
  (inline_of_isWordChar (isWordChar_commandTypeName hm.name)).append hm.genericArgs

namespace Spec.IsInline

variable {m : Method} (hs : s.IsInline Fair) (hm : m.IsInline Fair)
include hs hm

/-- A field of a command. -/
theorem storageField {f : StorageField} (hf : f ∈ (CommandType.ofMethod s m).fields) :
    Starts Fair false [] f.member ∧ Inline Fair f.param ∧ Inline Fair f.type := by
  rcases List.mem_append.mp hf with hf | hf
  · unfold CommandType.specFields at hf
    split at hf
    · obtain rfl := List.mem_singleton.mp hf
      have hspec : isIdentifier specField = true := by decide
      exact ⟨starts_name hspec, inline_name hspec, (inline_sharedType.append .fixed
        |>.append hs.path.toFills |>.append .fixed).inline (by decide)⟩
    · exact absurd hf List.not_mem_nil
  · obtain ⟨p, hp, rfl⟩ := List.mem_map.mp hf
    have hmem : p ∈ m.params := List.mem_of_mem_filter hp
    have hname : Inline Fair p.name := inline_name (hm.param_name p hmem)
    exact ⟨((Starts.fixed (by decide)).append hname).inline (by decide), hname,
      hm.param_type p hmem⟩

/-- The type of a command. -/
theorem wellLaid_typeLines : WellLaid Fair (CommandType.ofMethod s m).typeLines := by
  have hname : Inline Fair (commandTypeName m.name) :=
    inline_of_isWordChar (isWordChar_commandTypeName hm.name)
  have hdoc : WellLaid Fair (doc ("Deferred call to `" ++ (s.path ++ "::" ++ m.name) ++
      "`, replayed against the state current at apply time.")) :=
    .doc ((Fills.fixed.append (hs.target hm) |>.append .fixed).inline (by decide))
  refine hdoc.append ?_
  split
  · exact .single ((Starts.fixed (by decide)).append hname |>.append .fixed) (by decide)
  · refine .block ((Starts.fixed (by decide)).append hname |>.append hm.genericParams) (by decide)
      (.flatMap fun f hf => ?_)
    obtain ⟨hmember, -, htype⟩ := hs.storageField hm hf
    exact .single (hmember.append .fixed |>.append htype |>.append .fixed) (by decide)

/-- The constructor of a command. -/
theorem wellLaid_newLines : WellLaid Fair (CommandType.ofMethod s m).newLines := by
  have hparams : Inline Fair (commaList
      ((CommandType.ofMethod s m).fields.map fun f => f.param ++ ": " ++ f.type)) := by
    refine inline_commaList fun t ht => ?_
    obtain ⟨f, hf, rfl⟩ := List.mem_map.mp ht
    obtain ⟨-, hparam, htype⟩ := hs.storageField hm hf
    exact (hparam.append .fixed |>.append htype).inline (by decide)
  have hinits : Inline Fair (commaList ((CommandType.ofMethod s m).fields.map (·.init))) := by
    refine inline_commaList fun t ht => ?_
    obtain ⟨f, hf, rfl⟩ := List.mem_map.mp ht
    obtain ⟨hmember, hparam, -⟩ := hs.storageField hm hf
    unfold StorageField.init
    split
    · exact hmember.toFills
    · exact (hmember.toFills.append .fixed |>.append hparam).inline (by decide)
  have hinit : WellLaid Fair (line (CommandType.ofMethod s m).initText) := by
    unfold CommandType.initText
    split
    · exact .fixed (by decide) (by decide)
    · exact .single ((Starts.fixed (by decide)).append hinits |>.append .fixed) (by decide)
  have hfunction : WellLaid Fair (block ("fn new(" ++ commaList
      ((CommandType.ofMethod s m).fields.map fun f => f.param ++ ": " ++ f.type) ++ ") -> Self")
      (line (CommandType.ofMethod s m).initText)) :=
    .block ((Starts.fixed (by decide)).append hparams |>.append .fixed) (by decide) hinit
  exact .block ((Starts.fixed (by decide)).append hm.genericParams |>.append .fixed
    |>.append (hm.applied s)) (by decide) hfunction

/-- The call of the method. -/
theorem starts_callText : Starts Fair false [] (CommandType.ofMethod s m).callText := by
  have hreceiver : Starts Fair false [] (CommandType.ofMethod s m).receiver := by
    change Starts Fair false [] (if s.isInjected = true then _ else _)
    split
    · exact ((Starts.fixed (by decide)).append .fixed |>.append .fixed).inline (by decide)
    · exact (hs.path.append .fixed).inline (by decide)
  have harguments : Inline Fair
      (commaList ((CommandType.ofMethod s m).arguments.map (·.text))) := by
    refine inline_commaList fun t ht => ?_
    obtain ⟨a, ha, rfl⟩ := List.mem_map.mp ht
    obtain ⟨p, hp, rfl⟩ := List.mem_map.mp ha
    have hname : Inline Fair p.name := inline_name (hm.param_name p hp)
    unfold Argument.ofParam
    cases p.role with
    | captured => exact (Fills.fixed.append (Fills.fixed.append hname)).inline (by decide)
    | slot => exact (Fills.fixed.append hname).inline (by decide)
  exact (hreceiver.append (inline_name hm.name) |>.append .fixed |>.append harguments
    |>.append .fixed).inline (by decide)

/-- The body that applies a command. -/
theorem wellLaid_bodyLines : WellLaid Fair ((CommandType.ofMethod s m).bodyLines s) := by
  have hthis : WellLaid Fair (if (CommandType.ofMethod s m).fields.isEmpty then []
      else line "let this = *self;") := by
    split
    · exact .nil
    · exact .fixed (by decide) (by decide)
  have hslot : ∀ b ∈ (CommandType.ofMethod s m).slots,
      isIdentifier b.name = true ∧ Inline Fair b.type := by
    intro b hb
    obtain ⟨p, hp, rfl⟩ := List.mem_map.mp hb
    have hmem : p ∈ m.params := List.mem_of_mem_filter hp
    exact ⟨hm.param_name p hmem, hm.param_type p hmem⟩
  have hseeds : WellLaid Fair ((CommandType.ofMethod s m).slots.flatMap fun b =>
      seedLines s.handles b (cloneFunction ++ "(&state_container." ++ b.name ++ ")")) := by
    refine .flatMap fun b hb => ?_
    have hseed : Inline Fair (cloneFunction ++ "(&state_container." ++ b.name ++ ")") :=
      (inline_cloneFunction.append .fixed |>.append (inline_name (hslot b hb).1)
        |>.append .fixed).inline (by decide)
    exact wellLaid_seedLines hs.handles (hslot b hb).1 (hslot b hb).2 hseed
  have hcall : WellLaid Fair (line (CommandType.ofMethod s m).callText) :=
    .single (hs.starts_callText hm) (by decide)
  have hstores : WellLaid Fair ((CommandType.ofMethod s m).slots.flatMap fun b =>
      storeLines b.name) := .flatMap fun b hb => wellLaid_storeLines (hslot b hb).1
  exact ((((hthis.append (hs.wellLaid_downcastLines _)).append hseeds).append hcall).append
    hstores).append (.fixed (by decide) (by decide))

/-- The implementation of a command. -/
theorem wellLaid_applyLines : WellLaid Fair ((CommandType.ofMethod s m).applyLines s) := by
  have hcontainer : Starts Fair false []
      ((if (CommandType.ofMethod s m).slots.isEmpty then "_" else "") ++
        "state_container: &dyn ") := by
    split
    · exact ((Starts.fixed (by decide)).append .fixed).inline (by decide)
    · exact (Starts.fixed (by decide)).inline (by decide)
  have hcomponent : Starts Fair false []
      ((if (CommandType.ofMethod s m).slots.isEmpty then "_" else "") ++
        "new_component: &mut dyn ") := by
    split
    · exact ((Starts.fixed (by decide)).append .fixed).inline (by decide)
    · exact (Starts.fixed (by decide)).inline (by decide)
  have hparams : WellLaid Fair (line ("self: " ++ boxType ++ "<Self>,") ++
      line ((if (CommandType.ofMethod s m).slots.isEmpty then "_" else "") ++
        "state_container: &dyn " ++ s.handles.container ++ ",") ++
      line ((if (CommandType.ofMethod s m).slots.isEmpty then "_" else "") ++
        "new_component: &mut dyn " ++ s.handles.component ++ ",")) := by
    refine (WellLaid.append ?_ ?_).append ?_
    · exact .single ((Starts.fixed (by decide)).append starts_boxType.toFills |>.append .fixed)
        (by decide)
    · exact .single (hcontainer.append hs.handles.container |>.append .fixed) (by decide)
    · exact .single (hcomponent.append hs.handles.component |>.append .fixed) (by decide)
  exact .block ((Starts.fixed (by decide)).append hm.genericParams |>.append .fixed
      |>.append hs.handles.update |>.append .fixed |>.append (hm.applied s)) (by decide)
    (.signature (.fixed (by decide)) (by decide) hparams
      ((Starts.fixed (by decide)).append hs.handles.outcome) (by decide)
      (hs.wellLaid_bodyLines hm))

end Spec.IsInline

/-- The component's constructor of a command. -/
theorem Method.IsInline.wellLaid_commandMaker {m : Method} (hm : m.IsInline Fair) (s : Spec) :
    WellLaid Fair (CommandMaker.ofMethod s m).lines := by
  have hcommand : Starts Fair false [] (commandTypeName m.name) :=
    starts_of_plain (fun c hc => plain_of_isWordChar (isWordChar_commandTypeName hm.name c hc))
      (by simp [commandTypeName])
  have hformals : Inline Fair
      (commaList ("&self" :: (m.captured.map (·.binding)).map (·.text))) := by
    refine inline_commaList
      (List.forall_mem_cons.mpr ⟨Fills.fixed.inline (by decide), fun t ht => ?_⟩)
    obtain ⟨b, hb, rfl⟩ := List.mem_map.mp ht
    obtain ⟨p, hp, rfl⟩ := List.mem_map.mp hb
    exact hm.captured_binding hp
  have hactuals : Inline Fair (commaList (CommandMaker.ofMethod s m).actuals) := by
    refine inline_commaList fun t ht => ?_
    rcases List.mem_append.mp ht with ht | ht
    · unfold CommandMaker.specActuals at ht
      split at ht
      · obtain rfl := List.mem_singleton.mp ht
        exact (inline_sharedType.append .fixed |>.append .fixed |>.append .fixed).inline
          (by decide)
      · exact absurd ht List.not_mem_nil
    · obtain ⟨p, hp, rfl⟩ := List.mem_map.mp ht
      exact inline_name (hm.param_name p (List.mem_of_mem_filter hp))
  have hbody : WellLaid Fair (line (commandTypeName m.name ++ "::new(" ++
      commaList (CommandMaker.ofMethod s m).actuals ++ ")")) :=
    .single (hcommand.append .fixed |>.append hactuals |>.append .fixed) (by decide)
  exact .block ((Starts.fixed (by decide)).append hm.constructorName |>.append hm.genericParams
    |>.append .fixed |>.append hformals |>.append .fixed |>.append hcommand.toFills
    |>.append hm.genericArgs) (by decide) hbody

/-! ## 4. Lazy updaters -/

/-- The function that overwrites a field. -/
theorem Spec.IsInline.wellLaid_lazyUpdater (hs : s.IsInline Fair) {f : Field} (hf : f ∈ s.fields) :
    WellLaid Fair ((LazyUpdater.ofField f).lines s) := by
  have hname : isIdentifier f.name = true := hs.field_name f hf
  have hupdater : Inline Fair (lazyUpdaterName f.name) :=
    (Fills.fixed.append (inline_name hname)).inline (by decide)
  have hformals : Inline Fair
      (commaList ["c: &" ++ s.handles.context, lazyValue ++ ": " ++ f.type]) := by
    refine inline_commaList (List.forall_mem_cons.mpr ⟨?_, fun t ht => ?_⟩)
    · exact (Fills.fixed.append hs.handles.context).inline (by decide)
    · obtain rfl := List.mem_singleton.mp ht
      exact (Fills.fixed.append .fixed |>.append (hs.field_type f hf)).inline (by decide)
  have hdowncast := hs.handles.downcastComponent (inline_name hs.component)
  have hdowncastMut := hs.handles.downcastComponentMut (inline_name hs.component)
  have htitle : WellLaid Fair (doc ("Overwrites `" ++ f.name ++
      "` through the lazy queue without running any update method.")) :=
    .doc ((Fills.fixed.append (inline_name hname) |>.append .fixed).inline (by decide))
  have hguard : WellLaid Fair (block ("if c.component_scope().and_then(" ++
      s.handles.downcastComponent s.component ++ ").is_none()") (line "return;")) :=
    .block ((Starts.fixed (by decide)).append hdowncast |>.append .fixed) (by decide)
      (.fixed (by decide) (by decide))
  have hseed : WellLaid Fair (seedLines s.handles ⟨f.name, f.type⟩ lazyValue) :=
    wellLaid_seedLines hs.handles hname (hs.field_type f hf) (Fills.fixed.inline (by decide))
  have hfind : WellLaid Fair (line ("let new_component = " ++
      s.handles.downcastComponentMut s.component ++ "(new_component)?;")) :=
    .single ((Starts.fixed (by decide)).append hdowncastMut |>.append .fixed) (by decide)
  have hclosure : WellLaid Fair ((LazyUpdater.ofField f).closureLines s) :=
    .blockUntil ((Starts.fixed (by decide)).append hs.handles.container |>.append .fixed
        |>.append hs.handles.component |>.append .fixed) (by decide)
      ((hfind.append (wellLaid_storeLines hname)).append (.fixed (by decide) (by decide)))
      (by decide) (by decide)
  have hupdate : WellLaid Fair (line ("let state_update = " ++ s.handles.item "LazyStateUpdate" ++
      "::new(") ++ indent ((LazyUpdater.ofField f).closureLines s) ++ line ");") :=
    .enclosed ((Starts.fixed (by decide)).append (hs.handles.fixedItem (by decide))
      |>.append .fixed) (by decide) hclosure
  have hcall : WellLaid Fair
      (line ("c.update_state_lazy(" ++ boxType ++ "::new(state_update));")) :=
    .single ((Starts.fixed (by decide)).append starts_boxType.toFills |>.append .fixed) (by decide)
  have hbody := (hguard.append hseed).append (hupdate.append hcall)
  refine htitle.append (.block ((Starts.fixed (by decide)).append hupdater |>.append .fixed
    |>.append hformals |>.append .fixed) (by decide) ?_)
  simp only [List.append_assoc] at hbody ⊢
  exact hbody

/-! ## 5. Artifacts -/

/-- The source is the text of lines that fit between these open brackets. -/
def LaidIn (Fair : (Bracket → Bool) → Prop) (opened : List Bracket) (source : String) : Prop :=
  ∃ ls, source = renderLines 0 ls ∧ Laid Fair 0 opened ls opened

/-- The functions are laid out for the inside of an implementation, and the types for the margin. -/
structure Artifacts.LaidOut (Fair : (Bracket → Bool) → Prop) (a : Artifacts) : Prop where
  functions : ∀ f ∈ a.functions, LaidIn Fair [.curly] f.source
  types : ∀ t ∈ a.types, LaidIn Fair [] t.source

namespace Artifacts.LaidOut

theorem empty : LaidOut Fair .empty :=
  ⟨fun _ hf => absurd hf List.not_mem_nil, fun _ ht => absurd ht List.not_mem_nil⟩

theorem ofFunction {name : String} {p : Placement} {ls : List Line} (h : WellLaid Fair ls) :
    LaidOut Fair (.ofFunction ⟨name, p, renderLines 1 ls⟩) := by
  refine ⟨fun f hf => ?_, fun _ ht => absurd ht List.not_mem_nil⟩
  obtain rfl := List.mem_singleton.mp hf
  exact ⟨indent ls, (renderLines_indent 0 ls).symm, (h [.curly]).indent⟩

theorem ofType {name : String} {ls : List Line} (h : WellLaid Fair ls) :
    LaidOut Fair (.ofType ⟨name, renderLines 0 ls⟩) := by
  refine ⟨fun _ hf => absurd hf List.not_mem_nil, fun t ht => ?_⟩
  obtain rfl := List.mem_singleton.mp ht
  exact ⟨ls, rfl, h []⟩

theorem append {a b : Artifacts} (ha : LaidOut Fair a) (hb : LaidOut Fair b) :
    LaidOut Fair (a ++ b) :=
  ⟨fun f hf => (List.mem_append.mp hf).elim (ha.functions f) (hb.functions f),
    fun t ht => (List.mem_append.mp ht).elim (ha.types t) (hb.types t)⟩

theorem concat {sets : List Artifacts} (h : ∀ a ∈ sets, LaidOut Fair a) :
    LaidOut Fair (.concat sets) := by
  constructor
  · intro f hf
    obtain ⟨a, ha, hf⟩ := List.mem_flatMap.mp hf
    exact (h a ha).functions f hf
  · intro t ht
    obtain ⟨a, ha, ht⟩ := List.mem_flatMap.mp ht
    exact (h a ha).types t ht

end Artifacts.LaidOut

/-- **Everything that is synthesised is laid out.** -/
theorem Spec.IsInline.laidOut (hs : s.IsInline Fair) : s.artifacts.LaidOut Fair := by
  refine .concat fun a ha => ?_
  simp only [List.mem_cons, List.not_mem_nil, or_false] at ha
  rcases ha with rfl | rfl | rfl | rfl | rfl | rfl
  · unfold Spec.containerArtifacts
    split
    · exact .append
        (.ofType ((hs.wellLaid_recordLines.append .blank).append hs.wellLaid_copyLines))
        (.ofFunction hs.wellLaid_accessorLines)
    · exact .empty
  · unfold Spec.markerArtifacts
    split
    · exact .ofFunction wellLaid_markerLines
    · exact .empty
  · unfold Spec.transferArtifacts
    split
    · exact .ofFunction hs.wellLaid_transferLines
    · exact .empty
  · unfold Spec.entryPointArtifacts
    split
    · refine .concat fun a ha => ?_
      obtain ⟨m, hm, ha⟩ := List.mem_flatMap.mp ha
      have hentry : ∀ timing, (s.entryPointArtifact m timing).LaidOut Fair := fun timing =>
        .ofFunction (hs.wellLaid_entryPoint (hs.methods m hm) timing)
      rcases List.mem_pair.mp ha with rfl | rfl
      · exact hentry .sync
      · exact hentry .async
    · exact .empty
  · unfold Spec.commandArtifacts
    split
    · refine .concat fun a ha => ?_
      obtain ⟨m, hm, rfl⟩ := List.mem_map.mp ha
      have hmethod := hs.methods m hm
      exact .append (.ofFunction (hmethod.wellLaid_commandMaker s))
        (.ofType ((((hs.wellLaid_typeLines hmethod).append .blank).append
          (hs.wellLaid_newLines hmethod)).append .blank |>.append
          (hs.wellLaid_applyLines hmethod)))
    · exact .empty
  · refine .concat fun a ha => ?_
    obtain ⟨f, hf, rfl⟩ := List.mem_map.mp ha
    exact .ofFunction (hs.wellLaid_lazyUpdater (List.mem_of_mem_filter hf))

end Carryover
