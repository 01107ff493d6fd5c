/-
# The code of what is synthesised

Every synthesised function once more, as code of which is said where it binds and uses names
(`Carryover.Proofs.Source.Scope`).  The spec chooses the names of captured parameters and of boxes.
All other names that a function binds are the synthesis' own.

For each function it is proved that its code has the lines that are synthesised.
`Spec.functions_eq` and `Spec.types_eq` put that together: `Spec.functionCodes` and `Spec.typeCodes`
are the codes of all that is synthesised for a spec.
-/
import Mathlib.Data.List.Basic
import Carryover.Proofs.Artifact.Inventory
import Carryover.Proofs.Source.Scope

namespace Carryover

open Source

/-! ## 1. Pieces -/

/-- A parameter that the spec named, or a field of its type. -/
def bindingWords (b : Binding) : List Word :=
  [.binds (chosenName b.name), .text (": " ++ b.type)]

/-- An argument that the spec named. -/
def argumentWords (name : String) : List Word :=
  [.uses (chosenName name)]

/-- The context as a parameter. -/
def contextWords (h : Handles) : List Word :=
  [.binds (ownName "c"), .text (": &" ++ h.context)]

theorem wordsText_bindingWords : wordsText ∘ bindingWords = Binding.text := by
  funext b
  simp [bindingWords, Binding.text, String.append_assoc]

theorem wordsText_argumentWords : wordsText ∘ argumentWords = id := by
  funext name
  simp [argumentWords]

theorem wordsText_contextWords (h : Handles) :
    wordsText (contextWords h) = "c: &" ++ h.context := by
  simp [contextWords, ← String.toList_inj]

/-- A box that is filled. -/
def seedCode (h : Handles) (box : Binding) (seed : List Word) : Code :=
  .ofLine [.text "let mut ", .binds (chosenName box.name),
    .text (": " ++ h.boxOf box.type ++ " = " ++ h.item "StateValue" ++ "::new();")] ++
  .ofLine ([.uses (chosenName box.name), .text ".set("] ++ seed ++ [.text ");"])

/-- A box that is emptied.  The name of its value is known in the block only. -/
def storeCode (box : String) : Code :=
  .block [.text ("if let " ++ someValue ++ "("), .binds (ownName "value"), .text ") = ",
      .uses (chosenName box), .text ".into_inner()"]
    (.ofLine [.uses (ownName "new_component"), .text ("." ++ containerField ++ "." ++ box ++ " = "),
      .uses (ownName "value"), .text ";"])

theorem lines_seedCode {h : Handles} {box : Binding} {seed : List Word} :
    (seedCode h box seed).lines = seedLines h box (wordsText seed) := by
  simp [seedCode, seedLines, String.append_assoc]

theorem lines_storeCode {box : String} : (storeCode box).lines = storeLines box := by
  simp [storeCode, storeLines, block, blockUntil, opening, line, indent, ← String.toList_inj]

/-! ## 2. Containers -/

/-- The copying of a container. -/
def copyCode (s : Spec) : Code :=
  .block [.text ("impl " ++ s.handles.container ++ " for " ++ s.containerName)]
    (.block [.text "fn clone_box(&", .binds (ownName "self"),
        .text (") -> " ++ boxType ++ "<dyn " ++ s.handles.container ++ ">")]
      (.ofLine [.text (boxType ++ "::new(" ++ cloneFunction ++ "("), .uses (ownName "self"),
        .text "))"]))

/-- The function that shows the container. -/
def accessorCode (s : Spec) : Code :=
  .block [.text "fn state_container(&", .binds (ownName "self"),
      .text (") -> " ++ optionType ++ "<&dyn " ++ s.handles.container ++ ">")]
    (.ofLine [.text (someValue ++ "(&"), .uses (ownName "self"),
      .text ("." ++ containerField ++ ")")])

/-- The presence marker. -/
def markerCode : Code :=
  .block [.text "fn has_state(&", .binds (ownName "self"), .text ") -> bool"] (.ofText "true")

/-- The copying of one field. -/
def transferFieldCode (f : Field) : Code :=
  .ofLine [.uses (ownName "self"),
    .text ("." ++ containerField ++ "." ++ f.name ++ " = " ++ cloneFunction ++ "(&"),
    .uses (ownName "prev_state_container"), .text ("." ++ f.name ++ ");")]

/-- The transfer. -/
def transferCode (s : Spec) : Code :=
  .group .through [.text "fn transfer_state("]
    (.ofLine [.text "&mut ", .binds (ownName "self"), .text ","] ++
      .ofLine [.binds (ownName "_context"), .text (": &" ++ s.handles.context ++ ",")] ++
      .ofLine [.binds (ownName "prev_state_container"),
        .text (": &dyn " ++ s.handles.container ++ ",")])
    (.block [.text (") -> " ++ s.handles.outcome)]
      (.ofLine [.text "let ", .binds (ownName "prev_state_container"),
          .text (" = " ++ s.handles.downcastContainer s.containerName ++ "("),
          .uses (ownName "prev_state_container"), .text ")?;"] ++
        .join (s.fields.map transferFieldCode) ++
        .ofText "Ok(())"))

theorem lines_copyCode (s : Spec) : (copyCode s).lines = (ContainerType.ofSpec s).copyLines := by
  simp [copyCode, ContainerType.copyLines, ContainerType.ofSpec, block, blockUntil, opening, line,
    indent, ← String.toList_inj]

theorem lines_accessorCode (s : Spec) : (accessorCode s).lines = accessorLines s := by
  simp [accessorCode, accessorLines, block, blockUntil, opening, line, indent, ← String.toList_inj]

theorem lines_markerCode : markerCode.lines = markerLines := by
  simp [markerCode, markerLines, block, blockUntil, opening, line, indent]

theorem lines_transferCode (s : Spec) : (transferCode s).lines = transferLines s := by
  have hfield : ∀ f : Field, (transferFieldCode f).lines = line (transferLine f) := by
    intro f
    simp [transferFieldCode, transferLine, line, ← String.toList_inj]
  have hfields : (s.fields.map transferFieldCode).flatMap Code.lines
      = s.fields.flatMap fun f => line (transferLine f) := by
    simp only [List.flatMap_map, hfield]
  simp [transferCode, transferLines, Code.lines, hfields, block, blockUntil, opening, line, indent,
    ← String.toList_inj]

/-! ## 3. Entry points -/

/-- The component in scope. -/
def scopeCode (s : Spec) : Code :=
  .closed .behind "\x7d;" [.text ("let " ++ someValue ++ "("), .binds (ownName "component"),
      .text ") = ", .uses (ownName "c"),
      .text (".component_scope().and_then(" ++ s.handles.downcastComponent s.component ++
        ") else \x7b")]
    (.ofText "return;")

namespace EntryPoint

/-- The header of the function. -/
def headerWords (s : Spec) (e : EntryPoint) : List Word :=
  [.text ("pub fn " ++ e.name ++ genericParams e.typeParams ++ "(")] ++
    commaWords (contextWords s.handles :: e.formals.map bindingWords) ++ [.text ")"]

/-- The line that makes the command. -/
def makeWords (e : EntryPoint) : List Word :=
  [.text "let ", .binds (ownName "state_update"), .text " = ", .uses (ownName "component"),
    .text ("." ++ e.constructor ++ "(")] ++ commaWords (e.actuals.map argumentWords) ++ [.text ");"]

/-- The line that hands a command to a function of the context. -/
def requestWords (function : String) : List Word :=
  [.uses (ownName "c"), .text ("." ++ function ++ "(" ++ boxType ++ "::new("),
    .uses (ownName "state_update"), .text "));"]

/-- The function that requests an update. -/
def code (s : Spec) (e : EntryPoint) : Code :=
  .ofText (docText ("Requests `" ++ e.target ++ "` through the " ++ queueName e.timing ++
    " queue.")) ++
  .ofText (docText "") ++
  .ofText (docText "Does nothing when `c` is no longer attached to a component.") ++
  .block (e.headerWords s)
    (scopeCode s ++ .ofLine e.makeWords ++ .ofLine (requestWords (dispatchName e.timing)))

theorem wordsText_headerWords (s : Spec) (e : EntryPoint) :
    wordsText (e.headerWords s) = e.header s := by
  simp [headerWords, header, wordsText_bindingWords, wordsText_contextWords, String.append_assoc]

theorem wordsText_makeWords (e : EntryPoint) : wordsText e.makeWords
    = "let state_update = component." ++ e.constructor ++ "(" ++ commaList e.actuals ++ ");" := by
  simp [makeWords, wordsText_argumentWords, ← String.toList_inj]

theorem wordsText_requestWords (function : String) : wordsText (requestWords function)
    = "c." ++ function ++ "(" ++ boxType ++ "::new(state_update));" := by
  simp [requestWords, ← String.toList_inj]

theorem lines_scopeCode (s : Spec) : (scopeCode s).lines = scopeLines s "component" := by
  simp [scopeCode, scopeLines, blockUntil, opening, line, ← String.toList_inj]

theorem lines_code (s : Spec) (e : EntryPoint) : (e.code s).lines = e.lines s := by
  simp only [code, lines, doc, Code.lines_append, Code.lines_ofText, Code.lines_block,
    Code.lines_ofLine, wordsText_headerWords, wordsText_makeWords, wordsText_requestWords,
    lines_scopeCode]

end EntryPoint

/-! ## 4. Commands -/

/-- The parameters of a command's constructor. -/
def newParams (s : Spec) (m : Method) : List (List Word) :=
  (if s.isInjected then
    [[.binds (ownName specField), .text (": " ++ (sharedType ++ "<" ++ s.path ++ ">"))]] else []) ++
  m.captured.map fun p => bindingWords p.binding

/-- The fields of a command as its constructor sets them. -/
def newFields (s : Spec) (m : Method) : List (List Word) :=
  (if s.isInjected then [[.uses (ownName specField)]] else []) ++
  m.captured.map fun p => .text (memberName p.name ++ ": ") :: argumentWords p.name

/-- The value that a command's constructor makes. -/
def initCode (s : Spec) (m : Method) : Code :=
  if (CommandType.ofMethod s m).fields.isEmpty then .ofText "Self"
  else .ofLine (.text "Self \x7b " :: (commaWords (newFields s m) ++ [.text " \x7d"]))

/-- The constructor of a command. -/
def newCode (s : Spec) (m : Method) : Code :=
  .block [.text ("impl" ++ genericParams m.typeParams ++ " " ++ (CommandType.ofMethod s m).applied)]
    (.block (.text "fn new(" :: (commaWords (newParams s m) ++ [.text ") -> Self"])) (initCode s m))

/-- An argument of the call. -/
def callArgument (p : Param) : List Word :=
  match p.role with
  | .captured => [.uses (ownName "this"), .text ("." ++ memberName p.name)]
  | .slot => .text "&mut " :: argumentWords p.name

/-- What stands before the method's name in the call. -/
def receiverWords (s : Spec) : List Word :=
  if s.isInjected then [.uses (ownName "this"), .text ("." ++ specField ++ ".")]
  else [.text (s.path ++ "::")]

/-- The call of the method. -/
def callWords (s : Spec) (m : Method) : List Word :=
  receiverWords s ++ .text (m.name ++ "(") ::
    (commaWords (m.params.map callArgument) ++ [.text ");"])

/-- A parameter under its own name, as what it has been found to be. -/
def downcastWords (name downcast : String) : List Word :=
  [.text "let ", .binds (ownName name), .text (" = " ++ downcast ++ "("), .uses (ownName name),
    .text ")?;"]

/-- The concrete container and component, which slots need. -/
def downcastCode (s : Spec) (m : Method) : Code :=
  if m.slots.isEmpty then .done
  else
    .ofLine (downcastWords "state_container" (s.handles.downcastContainer s.containerName)) ++
    .ofLine (downcastWords "new_component" (s.handles.downcastComponentMut s.component))

/-- The current value of a slot. -/
def slotWords (name : String) : List Word :=
  [.text (cloneFunction ++ "(&"), .uses (ownName "state_container"), .text ("." ++ name ++ ")")]

/-- The command itself, by value, if it has any fields. -/
def thisCode (s : Spec) (m : Method) : Code :=
  if (CommandType.ofMethod s m).fields.isEmpty then .done
  else .ofLine [.text "let ", .binds (ownName "this"), .text " = *", .uses (ownName "self"),
    .text ";"]

/-- The body that applies a command. -/
def bodyCode (s : Spec) (m : Method) : Code :=
  thisCode s m ++
  downcastCode s m ++
  .join (m.slots.map fun p => seedCode s.handles p.binding (slotWords p.name)) ++
  .ofLine (callWords s m) ++
  .join (m.slots.map fun p => storeCode p.name) ++
  .ofText "Ok(())"

/-- The implementation of a command. -/
def applyCode (s : Spec) (m : Method) : Code :=
  let unused := if m.slots.isEmpty then "_" else ""
  .block [.text ("impl" ++ genericParams m.typeParams ++ " " ++ s.handles.update ++ " for " ++
      (CommandType.ofMethod s m).applied)]
    (.group .through [.text "fn update_state("]
      (.ofLine [.binds (ownName "self"), .text (": " ++ boxType ++ "<Self>,")] ++
        .ofLine [.binds (ownName (unused ++ "state_container")),
          .text (": &dyn " ++ s.handles.container ++ ",")] ++
        .ofLine [.binds (ownName (unused ++ "new_component")),
          .text (": &mut dyn " ++ s.handles.component ++ ",")])
      (.block [.text (") -> " ++ s.handles.outcome)] (bodyCode s m)))

/-- The parameters of the component's constructor of a command. -/
def makerParams (m : Method) : List (List Word) :=
  [.text "&", .binds (ownName "self")] :: m.captured.map fun p => bindingWords p.binding

/-- The arguments for the command's own constructor. -/
def makerArguments (s : Spec) (m : Method) : List (List Word) :=
  (if s.isInjected then [[.text (sharedType ++ "::clone(&"), .uses (ownName "self"),
    .text ("." ++ specField ++ ")")]] else []) ++
  m.captured.map fun p => argumentWords p.name

/-- The component's constructor of a command. -/
def makerCode (s : Spec) (m : Method) : Code :=
  .block (.text ("fn " ++ constructorName m.name ++ genericParams m.typeParams ++ "(") ::
      (commaWords (makerParams m) ++
        [.text (") -> " ++ commandTypeName m.name ++ genericArgs m.typeParams)]))
    (.ofLine (.text (commandTypeName m.name ++ "::new(") ::
      (commaWords (makerArguments s m) ++ [.text ")"])))

/-- No parameter is stored under its own name. -/
theorem memberName_ne (name : String) : memberName name ≠ name := by
  intro h
  have hlength := congrArg String.length h
  simp [memberName] at hlength

theorem wordsText_newParams (s : Spec) (m : Method) : (newParams s m).map wordsText
    = (CommandType.ofMethod s m).fields.map fun f => f.param ++ ": " ++ f.type := by
  unfold newParams CommandType.ofMethod CommandType.specFields
  split <;> simp [CommandType.capturedField, bindingWords, Param.binding, Function.comp_def,
    String.append_assoc]

theorem wordsText_newFields (s : Spec) (m : Method) :
    (newFields s m).map wordsText = (CommandType.ofMethod s m).fields.map (·.init) := by
  unfold newFields CommandType.ofMethod CommandType.specFields
  split <;> simp [CommandType.capturedField, StorageField.init, memberName_ne, argumentWords,
    Function.comp_def, String.append_assoc]

theorem lines_initCode (s : Spec) (m : Method) :
    (initCode s m).lines = line (CommandType.ofMethod s m).initText := by
  unfold initCode CommandType.initText
  split <;> simp [wordsText_newFields, String.append_assoc]

theorem lines_newCode (s : Spec) (m : Method) :
    (newCode s m).lines = (CommandType.ofMethod s m).newLines := by
  have hheader : wordsText (.text "fn new(" :: (commaWords (newParams s m) ++
      [.text ") -> Self"])) = "fn new(" ++ commaList ((CommandType.ofMethod s m).fields.map
        fun f => f.param ++ ": " ++ f.type) ++ ") -> Self" := by
    simp [wordsText_newParams, String.append_assoc]
  unfold newCode CommandType.newLines
  rw [Code.lines_block, Code.lines_block, hheader, lines_initCode]
  simp [CommandType.ofMethod]

theorem wordsText_callWords (s : Spec) (m : Method) :
    wordsText (callWords s m) = (CommandType.ofMethod s m).callText := by
  have hreceiver : wordsText (receiverWords s) = (CommandType.ofMethod s m).receiver := by
    unfold receiverWords CommandType.ofMethod
    split <;> simp [← String.toList_inj, *]
  have harguments : (m.params.map callArgument).map wordsText
      = (CommandType.ofMethod s m).arguments.map (·.text) := by
    unfold CommandType.ofMethod
    rw [List.map_map, List.map_map]
    refine List.map_congr_left fun p _ => ?_
    unfold Function.comp callArgument Argument.ofParam
    cases p.role <;> simp [Argument.text, argumentWords, ← String.toList_inj]
  have hmethod : (CommandType.ofMethod s m).method = m.name := rfl
  simp only [callWords, CommandType.callText, wordsText_append, wordsText_cons, wordsText_nil,
    wordsText_commaWords, Word.shown_text, hreceiver, harguments, hmethod, String.append_assoc,
    String.append_empty]

theorem wordsText_downcastWords (name downcast : String) : wordsText (downcastWords name downcast)
    = "let " ++ name ++ " = " ++ downcast ++ "(" ++ name ++ ")?;" := by
  simp [downcastWords, String.append_assoc]

theorem lines_downcastCode (s : Spec) (m : Method) :
    (downcastCode s m).lines = (CommandType.ofMethod s m).downcastLines s := by
  unfold downcastCode CommandType.downcastLines CommandType.ofMethod
  rw [List.isEmpty_map]
  split
  · rfl
  · simp [wordsText_downcastWords, line, ← String.toList_inj]

theorem wordsText_slotWords (name : String) : wordsText (slotWords name)
    = cloneFunction ++ "(&state_container." ++ name ++ ")" := by
  simp [slotWords, ← String.toList_inj]

theorem lines_thisCode (s : Spec) (m : Method) : (thisCode s m).lines
    = if (CommandType.ofMethod s m).fields.isEmpty then [] else line "let this = *self;" := by
  unfold thisCode
  split
  · rfl
  · simp

theorem lines_bodyCode (s : Spec) (m : Method) :
    (bodyCode s m).lines = (CommandType.ofMethod s m).bodyLines s := by
  simp only [bodyCode, CommandType.bodyLines, Code.lines_append, Code.lines_join,
    Code.lines_ofLine, Code.lines_ofText, List.flatMap_map, lines_thisCode, lines_downcastCode,
    lines_seedCode, lines_storeCode, wordsText_slotWords, wordsText_callWords]
  simp [CommandType.ofMethod, List.flatMap_map, Param.binding]

theorem lines_applyCode (s : Spec) (m : Method) :
    (applyCode s m).lines = (CommandType.ofMethod s m).applyLines s := by
  have hslots : (CommandType.ofMethod s m).slots.isEmpty = m.slots.isEmpty := List.isEmpty_map
  unfold applyCode CommandType.applyLines
  rw [hslots]
  simp [Code.lines, lines_bodyCode, CommandType.ofMethod, block, blockUntil, opening, line, indent,
    ← String.toList_inj]

theorem wordsText_makerParams (m : Method) : (makerParams m).map wordsText
    = "&self" :: (m.captured.map (·.binding)).map (·.text) := by
  simp [makerParams, bindingWords, Binding.text, Function.comp_def, String.append_assoc]

theorem wordsText_makerArguments (s : Spec) (m : Method) :
    (makerArguments s m).map wordsText = (CommandMaker.ofMethod s m).actuals := by
  unfold makerArguments CommandMaker.ofMethod CommandMaker.specActuals
  split <;> simp [argumentWords, Function.comp_def, ← String.toList_inj]

theorem lines_makerCode (s : Spec) (m : Method) :
    (makerCode s m).lines = (CommandMaker.ofMethod s m).lines := by
  have hheader : wordsText (.text ("fn " ++ constructorName m.name ++ genericParams m.typeParams ++
      "(") :: (commaWords (makerParams m) ++
        [.text (") -> " ++ commandTypeName m.name ++ genericArgs m.typeParams)]))
      = (CommandMaker.ofMethod s m).header := by
    simp [wordsText_makerParams, CommandMaker.header, CommandMaker.ofMethod, String.append_assoc]
  have hcommand : (CommandMaker.ofMethod s m).command = commandTypeName m.name := rfl
  unfold makerCode CommandMaker.lines
  rw [Code.lines_block, hheader, Code.lines_ofLine, hcommand]
  simp [wordsText_makerArguments, String.append_assoc]

/-! ## 5. Lazy updaters -/

/-- The parameters of a lazy updater. -/
def lazyParams (s : Spec) (f : Field) : List (List Word) :=
  [contextWords s.handles, [.binds (ownName lazyValue), .text (": " ++ f.type)]]

/-- The update, a closure. -/
def closureCode (s : Spec) (f : Field) : Code :=
  .closed .inside "\x7d," [.text "move |", .binds (ownName "_state_container"),
      .text (": &dyn " ++ s.handles.container ++ ", "), .binds (ownName "new_component"),
      .text (": &mut dyn " ++ s.handles.component ++ "| \x7b")]
    (.ofLine (downcastWords "new_component" (s.handles.downcastComponentMut s.component)) ++
      storeCode f.name ++ .ofText "Ok(())")

/-- The function that overwrites a field. -/
def lazyCode (s : Spec) (f : Field) : Code :=
  .ofText (docText ("Overwrites `" ++ f.name ++
    "` through the lazy queue without running any update method.")) ++
  .block (.text ("pub fn " ++ lazyUpdaterName f.name ++ "(") ::
      (commaWords (lazyParams s f) ++ [.text ")"]))
    (.block [.text "if ", .uses (ownName "c"), .text (".component_scope().and_then(" ++
          s.handles.downcastComponent s.component ++ ").is_none()")] (.ofText "return;") ++
      seedCode s.handles ⟨f.name, f.type⟩ [.uses (ownName lazyValue)] ++
      .closed .behind ");" [.text "let ", .binds (ownName "state_update"),
          .text (" = " ++ s.handles.item "LazyStateUpdate" ++ "::new(")] (closureCode s f) ++
      .ofLine (EntryPoint.requestWords "update_state_lazy"))

theorem lines_closureCode (s : Spec) (f : Field) :
    (closureCode s f).lines = (LazyUpdater.ofField f).closureLines s := by
  simp [closureCode, LazyUpdater.closureLines, LazyUpdater.ofField, lines_storeCode,
    wordsText_downcastWords, blockUntil, opening, line, indent, ← String.toList_inj]

theorem lines_lazyCode (s : Spec) (f : Field) :
    (lazyCode s f).lines = (LazyUpdater.ofField f).lines s := by
  have hheader : wordsText (.text ("pub fn " ++ lazyUpdaterName f.name ++ "(") ::
      (commaWords (lazyParams s f) ++ [.text ")"])) = (LazyUpdater.ofField f).header s := by
    simp [lazyParams, LazyUpdater.header, LazyUpdater.ofField, wordsText_contextWords,
      String.append_assoc]
  have hguard : wordsText [.text "if ", .uses (ownName "c"),
      .text (".component_scope().and_then(" ++ s.handles.downcastComponent s.component ++
        ").is_none()")]
      = "if c.component_scope().and_then(" ++ s.handles.downcastComponent s.component ++
        ").is_none()" := by
    simp [← String.toList_inj]
  have hupdate : wordsText [.text "let ", .binds (ownName "state_update"),
      .text (" = " ++ s.handles.item "LazyStateUpdate" ++ "::new(")]
      = "let state_update = " ++ s.handles.item "LazyStateUpdate" ++ "::new(" := by
    simp [← String.toList_inj]
  have hrequest := EntryPoint.wordsText_requestWords "update_state_lazy"
  simp only [lazyCode, LazyUpdater.lines, doc, Code.lines_append, Code.lines_ofText,
    Code.lines_block, Code.lines_closed, Code.lines_ofLine, hheader, hguard, hupdate, hrequest,
    lines_seedCode, lines_closureCode]
  simp [LazyUpdater.ofField]

/-! ## 6. All functions -/

/-- The codes of the functions that are synthesised for the component of a spec. -/
def Spec.functionCodes (s : Spec) : List Code :=
  (if s.hasState then [accessorCode s] else []) ++
  (if s.wantsMarker && s.hasState then [markerCode] else []) ++
  (if s.hasState then [transferCode s] else []) ++
  (if s.hasState then s.methods.flatMap fun m => [(EntryPoint.ofMethod s m .sync).code s,
    (EntryPoint.ofMethod s m .async).code s] else []) ++
  (if s.hasState then s.methods.map (makerCode s) else []) ++
  s.lazyFields.map (lazyCode s)

/-- The types that are synthesised for a spec: the declaration of each with what is implemented for
it. -/
def Spec.typeCodes (s : Spec) : List (List Line × List Code) :=
  (if s.hasState then [((ContainerType.ofSpec s).recordLines, [copyCode s])] else []) ++
  (if s.hasState then s.methods.map fun m =>
    ((CommandType.ofMethod s m).typeLines, [newCode s m, applyCode s m]) else [])

/-- The lines of a declaration and of what is implemented for it. -/
def typeLines (declaration : List Line) (codes : List Code) : List Line :=
  declaration ++ codes.flatMap fun code => blank ++ code.lines

namespace Spec

variable (s : Spec)

/-- **The functions of the component are these.** -/
theorem functions_eq : s.artifacts.functions.map (·.source)
    = s.functionCodes.map fun code => renderLines 1 code.lines := by
  cases h : s.hasState with
  | false =>
    have hlazy : s.lazyFields = [] := by simp [lazyFields, hasState_eq_false_iff.mp h]
    simp [artifacts_of_stateless h, functionCodes, h, hlazy]
  | true =>
    have hmethods : (s.methods.flatMap fun m =>
        [(EntryPoint.ofMethod s m .sync).artifact s, (EntryPoint.ofMethod s m .async).artifact s]).map
          (·.source) = (s.methods.flatMap fun m => [(EntryPoint.ofMethod s m .sync).code s,
            (EntryPoint.ofMethod s m .async).code s]).map fun code => renderLines 1 code.lines := by
      simp [List.map_flatMap, EntryPoint.artifact, EntryPoint.lines_code]
    rw [(inventory_artifacts h).functions]
    unfold overrides ownFunctions functionCodes
    simp only [h, if_true, Bool.and_true, List.map_append, hmethods]
    cases s.wantsMarker <;>
      simp [lines_accessorCode, lines_markerCode, lines_transferCode, lines_makerCode,
        lines_lazyCode, CommandMaker.artifact, LazyUpdater.artifact, Function.comp_def]

/-- **The types of the module are these.** -/
theorem types_eq : s.artifacts.types.map (·.source)
    = s.typeCodes.map fun t => renderLines 0 (typeLines t.1 t.2) := by
  cases h : s.hasState with
  | false => simp [artifacts_of_stateless h, typeCodes, h]
  | true =>
    rw [(inventory_artifacts h).types]
    simp [typeCodes, h, typeLines, ContainerType.artifact, CommandType.artifact, lines_copyCode,
      lines_newCode, lines_applyCode, Function.comp_def]

/-- The codes of all functions that are synthesised for a spec. -/
def codes : List Code :=
  s.functionCodes ++ s.typeCodes.flatMap (·.2)

/-- What holds of the code of each function holds of all codes. -/
theorem forall_mem_codes {P : Code → Prop} (hcopy : P (copyCode s)) (haccessor : P (accessorCode s))
    (hmarker : P markerCode) (htransfer : P (transferCode s))
    (hmethods : ∀ m ∈ s.methods, (∀ timing, P ((EntryPoint.ofMethod s m timing).code s)) ∧
      P (makerCode s m) ∧ P (newCode s m) ∧ P (applyCode s m))
    (hlazy : ∀ f ∈ s.lazyFields, P (lazyCode s f)) : ∀ code ∈ s.codes, P code := by
  intro code hcode
  rcases List.mem_append.mp hcode with hcode | hcode
  · unfold functionCodes at hcode
    simp only [List.mem_append, List.mem_ite_nil_right, List.mem_singleton, List.mem_map] at hcode
    rcases hcode with ((((⟨-, rfl⟩ | ⟨-, rfl⟩) | ⟨-, rfl⟩) | ⟨-, hentry⟩) | ⟨-, m, hm, rfl⟩) |
      ⟨f, hf, rfl⟩
    · exact haccessor
    · exact hmarker
    · exact htransfer
    · obtain ⟨m, hm, hentry⟩ := List.mem_flatMap.mp hentry
      rcases List.mem_pair.mp hentry with rfl | rfl
      · exact (hmethods m hm).1 .sync
      · exact (hmethods m hm).1 .async
    · exact (hmethods m hm).2.1
    · exact hlazy f hf
  · obtain ⟨t, ht, hcode⟩ := List.mem_flatMap.mp hcode
    unfold typeCodes at ht
    simp only [List.mem_append, List.mem_ite_nil_right, List.mem_singleton, List.mem_map] at ht
    rcases ht with ⟨-, rfl⟩ | ⟨-, m, hm, rfl⟩
    · obtain rfl := List.mem_singleton.mp hcode
      exact hcopy
    · rcases List.mem_pair.mp hcode with rfl | rfl
      · exact (hmethods m hm).2.2.1
      · exact (hmethods m hm).2.2.2

end Spec

end Carryover
