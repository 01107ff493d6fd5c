/-
# The names of types

A state module names types of its own, the component and the type of the spec.  Beside them stand
the type parameters of methods, whose names a spec chooses.  A type parameter holds in all of the
item that declares it, in front of its declaration too.  So an item is told apart from its text by
its words alone, without scopes (`Item`), and a type parameter with the name of a type that the item
names hides that type (`Item.Apart`).

Six items are synthesised for a method (`Method.items`).  For each it is proved that it has the lines
that are synthesised, and which types it names.  The check of a spec asks type parameters for nothing
but to be identifiers, to differ and to be used, and it does not look at the name of the spec's own
type.  `typesClear_synthesized_iff` says what is right all the same and what may go wrong, and
`not_typesClear_synthesized` is a spec whose component is hidden.
-/
import Carryover.Proofs.Artifact.Code
import Carryover.Proofs.Artifact.Names

namespace Carryover

namespace Source

/-! ## 1. Items -/

/-- The name of a type parameter. -/
def paramName (t : String) : Name :=
  chosenName t

/-- The name of a type that is declared in the module or outside. -/
def typeName (t : String) : Name :=
  ownName t

@[simp] theorem chooser_paramName (t : String) : (paramName t).chooser = .spec :=
  rfl

@[simp] theorem text_paramName (t : String) : (paramName t).text = t :=
  rfl

@[simp] theorem chooser_typeName (t : String) : (typeName t).chooser = .synthesis :=
  rfl

@[simp] theorem text_typeName (t : String) : (typeName t).text = t :=
  rfl

/-- A line with its words. -/
structure WordLine where
  depth : Nat
  words : List Word
  deriving DecidableEq, Repr

/-- An item of a module, of which is said where it names types. -/
abbrev Item :=
  List WordLine

namespace Item

/-- The lines as they are written. -/
def lines (i : Item) : List Line :=
  i.map fun l => ⟨l.depth, wordsText l.words⟩

/-- Lines in which nothing is said of types. -/
def ofLines (ls : List Line) : Item :=
  ls.map fun l => ⟨l.depth, [.text l.text]⟩

/-- One line. -/
def ofWords (ws : List Word) : Item :=
  [⟨0, ws⟩]

/-- The lines one level further in. -/
def inner (i : Item) : Item :=
  i.map fun l => { l with depth := l.depth + 1 }

/-- Lines between a header and a closing text. -/
def blockUntil (closing : String) (header : List Word) (body : Item) : Item :=
  ofWords (header ++ [.text " \x7b"]) ++ body.inner ++ ofLines (line closing)

/-- Lines between a header and a closing brace. -/
def block (header : List Word) (body : Item) : Item :=
  blockUntil "\x7d" header body

/-- The names that are declared somewhere. -/
def bound (i : Item) : List Name :=
  i.flatMap fun l => boundIn l.words

/-- The names that are used somewhere. -/
def used (i : Item) : List Name :=
  i.flatMap fun l => usedIn l.words

/-- The type parameters that the item declares. -/
def params (i : Item) : List String :=
  chosenBy .spec i.bound

/-- The types that the item names, its type parameters apart. -/
def types (i : Item) : List String :=
  chosenBy .synthesis i.used

/-- **No type that the item names is hidden by one of its type parameters.** -/
def Apart (i : Item) : Prop :=
  ∀ t ∈ i.types, t ∉ i.params

variable {i j : Item} {ls : List Line} {ws : List Word} {closing : String}

@[simp] theorem lines_append : lines (i ++ j) = i.lines ++ j.lines :=
  List.map_append

@[simp] theorem lines_ofLines : (ofLines ls).lines = ls := by
  simp [lines, ofLines, Function.comp_def]

@[simp] theorem lines_ofWords : (ofWords ws).lines = line (wordsText ws) :=
  rfl

@[simp] theorem lines_inner : i.inner.lines = indent i.lines := by
  simp [lines, inner, indent]

@[simp] theorem lines_blockUntil :
    (blockUntil closing ws i).lines = Source.blockUntil closing (wordsText ws) i.lines := by
  simp [blockUntil, Source.blockUntil, opening]

@[simp] theorem lines_block : (block ws i).lines = Source.block (wordsText ws) i.lines :=
  lines_blockUntil

@[simp] theorem params_nil : params [] = [] :=
  rfl

@[simp] theorem params_append : params (i ++ j) = i.params ++ j.params := by
  simp [params, bound]

@[simp] theorem params_ofLines : (ofLines ls).params = [] := by
  simp [params, bound, ofLines, List.flatMap_map]

@[simp] theorem params_ofWords : (ofWords ws).params = chosenBy .spec (boundIn ws) := by
  simp [params, bound, ofWords]

@[simp] theorem params_inner : i.inner.params = i.params := by
  simp [params, bound, inner, List.flatMap_map]

@[simp] theorem params_blockUntil :
    (blockUntil closing ws i).params = chosenBy .spec (boundIn ws) ++ i.params := by
  simp [blockUntil]

@[simp] theorem params_block :
    (block ws i).params = chosenBy .spec (boundIn ws) ++ i.params :=
  params_blockUntil

@[simp] theorem types_nil : types [] = [] :=
  rfl

@[simp] theorem types_append : types (i ++ j) = i.types ++ j.types := by
  simp [types, used]

@[simp] theorem types_ofLines : (ofLines ls).types = [] := by
  simp [types, used, ofLines, List.flatMap_map]

@[simp] theorem types_ofWords : (ofWords ws).types = chosenBy .synthesis (usedIn ws) := by
  simp [types, used, ofWords]

@[simp] theorem types_inner : i.inner.types = i.types := by
  simp [types, used, inner, List.flatMap_map]

@[simp] theorem types_blockUntil :
    (blockUntil closing ws i).types = chosenBy .synthesis (usedIn ws) ++ i.types := by
  simp [blockUntil]

@[simp] theorem types_block :
    (block ws i).types = chosenBy .synthesis (usedIn ws) ++ i.types :=
  types_blockUntil

end Item

end Source

open Source

/-! ## 2. Pieces -/

/-- A list between angle brackets, or nothing. -/
def angledWords (parts : List (List Word)) : List Word :=
  if parts.isEmpty then [] else .text "<" :: (commaWords parts ++ [.text ">"])

/-- A type parameter where it is declared. -/
def typeParamWords (p : TypeParam) : List Word :=
  let bounds := String.ofList (Text.trim p.bounds.toList)
  [.binds (paramName p.name),
    .text (": " ++ (if bounds.isEmpty then "" else bounds ++ " + ") ++ sendTrait ++ " + 'static")]

/-- The declaration of type parameters. -/
def genericParamWords (ps : List TypeParam) : List Word :=
  angledWords (ps.map typeParamWords)

/-- The type parameters as arguments. -/
def genericArgWords (ps : List TypeParam) : List Word :=
  angledWords (ps.map fun p => [.uses (paramName p.name)])

/-- The name that a path begins with, by which it is found.  A rooted path begins with none, and
nothing has the empty name. -/
def pathHead (path : String) : String :=
  String.ofList (path.toList.takeWhile (· ≠ ':'))

/-- The path of a type. -/
def pathWords (path : String) : List Word :=
  [.uses (typeName (pathHead path)), .text (String.ofList (path.toList.dropWhile (· ≠ ':')))]

section Pieces

variable {parts : List (List Word)} {ps : List TypeParam} {path : String}

theorem wordsText_angledWords : wordsText (angledWords parts) = angled (parts.map wordsText) := by
  unfold angledWords angled
  rw [List.isEmpty_map]
  split <;> simp [String.append_assoc]

@[simp] theorem wordsText_genericParamWords : wordsText (genericParamWords ps) = genericParams ps := by
  unfold genericParamWords genericParams
  rw [wordsText_angledWords, List.map_map]
  refine congrArg angled (List.map_congr_left fun p _ => ?_)
  simp [typeParamWords, typeParamText, String.append_assoc]

@[simp] theorem wordsText_genericArgWords : wordsText (genericArgWords ps) = genericArgs ps := by
  unfold genericArgWords genericArgs
  rw [wordsText_angledWords, List.map_map]
  refine congrArg angled (List.map_congr_left fun p _ => ?_)
  simp

@[simp] theorem wordsText_pathWords : wordsText (pathWords path) = path := by
  simp [pathWords, pathHead, ← String.toList_inj]

@[simp] theorem boundIn_genericParamWords :
    boundIn (genericParamWords ps) = ps.map fun p => paramName p.name := by
  unfold genericParamWords angledWords
  cases ps <;> simp [typeParamWords, List.flatMap_map, ← List.map_eq_flatMap]

@[simp] theorem usedIn_genericParamWords : usedIn (genericParamWords ps) = [] := by
  unfold genericParamWords angledWords
  cases ps <;> simp [typeParamWords, List.flatMap_map]

@[simp] theorem boundIn_genericArgWords : boundIn (genericArgWords ps) = [] := by
  unfold genericArgWords angledWords
  cases ps <;> simp [List.flatMap_map]

@[simp] theorem usedIn_genericArgWords :
    usedIn (genericArgWords ps) = ps.map fun p => paramName p.name := by
  unfold genericArgWords angledWords
  cases ps <;> simp [List.flatMap_map, ← List.map_eq_flatMap]

@[simp] theorem boundIn_pathWords : boundIn (pathWords path) = [] :=
  rfl

@[simp] theorem usedIn_pathWords : usedIn (pathWords path) = [typeName (pathHead path)] :=
  rfl

end Pieces

/-! ## 3. The items of a method -/

section Items

variable (s : Spec) (m : Method)

/-- The component in scope. -/
def scopeItem : Item :=
  .blockUntil "\x7d;" [.text ("let " ++ someValue ++
      "(component) = c.component_scope().and_then(" ++ s.handles.item "downcast_component" ++ "::<"),
      .uses (typeName s.component), .text ">) else"]
    (.ofLines (line "return;"))

/-- The function that requests an update. -/
def entryItem (timing : Timing) : Item :=
  let e := EntryPoint.ofMethod s m timing
  .ofLines (doc ("Requests `" ++ e.target ++ "` through the " ++ EntryPoint.queueName timing ++
      " queue.") ++
    doc "" ++
    doc "Does nothing when `c` is no longer attached to a component.") ++
  .block (.text ("pub fn " ++ e.name) :: (genericParamWords m.typeParams ++ [.text ("(" ++
      commaList (("c: &" ++ s.handles.context) :: e.formals.map (·.text)) ++ ")")]))
    (scopeItem s ++
      .ofLines (line ("let state_update = component." ++ e.constructor ++ "(" ++
          commaList e.actuals ++ ");") ++
        line ("c." ++ EntryPoint.dispatchName timing ++ "(" ++ boxType ++ "::new(state_update));")))

/-- The component's function that makes a command. -/
def makerItem : Item :=
  let k := CommandMaker.ofMethod s m
  .block (.text ("fn " ++ k.name) :: (genericParamWords m.typeParams ++ [.text ("(" ++
      commaList ("&self" :: k.formals.map (·.text)) ++ ") -> "), .uses (typeName k.command)] ++
      genericArgWords m.typeParams))
    (.ofWords [.uses (typeName k.command), .text ("::new(" ++ commaList k.actuals ++ ")")])

/-- The type of the field for the spec's instance, behind a name. -/
def specWords (name : String) : List Word :=
  .text (name ++ ": " ++ sharedType ++ "<") :: (pathWords s.path ++ [.text ">"])

/-- The field for the spec's instance. -/
def specItem : Item :=
  if s.isInjected then .ofWords (specWords s specField ++ [.text ","]) else []

/-- The declaration of a command. -/
def recordItem : Item :=
  let c := CommandType.ofMethod s m
  .ofLines (doc ("Deferred call to `" ++ c.target ++
    "`, replayed against the state current at apply time.")) ++
  if c.fields.isEmpty then .ofLines (line ("struct " ++ c.name ++ ";"))
  else
    .block (.text ("struct " ++ c.name) :: genericParamWords m.typeParams)
      (specItem s ++ .ofLines ((m.captured.map CommandType.capturedField).flatMap fun f =>
        line (f.member ++ ": " ++ f.type ++ ",")))

/-- The parameters of a command's constructor, of which the spec's instance names a type. -/
def newParamWords : List (List Word) :=
  (if s.isInjected then [specWords s specField] else []) ++
  m.captured.map fun p => [.text p.binding.text]

/-- The constructor of a command. -/
def newItem : Item :=
  let c := CommandType.ofMethod s m
  .block (.text "impl" :: (genericParamWords m.typeParams ++ [.text " ", .uses (typeName c.name)] ++
      genericArgWords m.typeParams))
    (.block (.text "fn new(" :: (commaWords (newParamWords s m) ++ [.text ") -> Self"]))
      (.ofLines (line c.initText)))

/-- A value under its own name, as what it has been found to be. -/
def downcastItem (name downcast type : String) : Item :=
  .ofWords [.text ("let " ++ name ++ " = " ++ s.handles.item downcast ++ "::<"),
    .uses (typeName type), .text (">(" ++ name ++ ")?;")]

/-- The concrete container and component, which slots need. -/
def downcastItems : Item :=
  if m.slots.isEmpty then []
  else
    downcastItem s "state_container" "downcast_container" s.containerName ++
    downcastItem s "new_component" "downcast_component_mut" s.component

/-- What stands before the method's name in the call. -/
def calleeWords : List Word :=
  if s.isInjected then [.text ("this." ++ specField ++ ".")]
  else pathWords s.path ++ [.text "::"]

/-- The implementation of a command. -/
def applyItem : Item :=
  let c := CommandType.ofMethod s m
  let unused := if m.slots.isEmpty then "_" else ""
  .block (.text "impl" :: (genericParamWords m.typeParams ++ [.text (" " ++ s.handles.update ++
      " for "), .uses (typeName c.name)] ++ genericArgWords m.typeParams))
    (.ofLines (line "fn update_state(" ++
      indent (
        line ("self: " ++ boxType ++ "<Self>,") ++
        line (unused ++ "state_container: &dyn " ++ s.handles.container ++ ",") ++
        line (unused ++ "new_component: &mut dyn " ++ s.handles.component ++ ","))) ++
    .block [.text (") -> " ++ s.handles.outcome)]
      (.ofLines (if c.fields.isEmpty then [] else line "let this = *self;") ++
        downcastItems s m ++
        .ofLines (c.slots.flatMap fun b =>
          seedLines s.handles b (cloneFunction ++ "(&state_container." ++ b.name ++ ")")) ++
        .ofWords (calleeWords s ++
          [.text (m.name ++ "(" ++ commaList (c.arguments.map (·.text)) ++ ");")]) ++
        .ofLines (c.slots.flatMap (fun b => storeLines b.name) ++ line "Ok(())")))

/-- All items that are synthesised for a method. -/
def Method.items : List Item :=
  [entryItem s m .sync, entryItem s m .async, makerItem s m, recordItem s m, newItem s m,
    applyItem s m]

/-- The types that they name. -/
def Method.namedTypes : List String :=
  [s.component, commandTypeName m.name, pathHead s.path] ++
    if m.slots.isEmpty then [] else [s.containerName]

end Items

/-! ## 4. Their lines -/

section Lines

variable (s : Spec) (m : Method)

theorem lines_scopeItem : (scopeItem s).lines = EntryPoint.scopeLines s "component" := by
  simp [scopeItem, EntryPoint.scopeLines, Handles.downcastComponent, ← String.toList_inj,
    blockUntil, opening, line]

theorem lines_entryItem (timing : Timing) :
    (entryItem s m timing).lines = (EntryPoint.ofMethod s m timing).lines s := by
  simp [entryItem, EntryPoint.lines, EntryPoint.header, lines_scopeItem, EntryPoint.ofMethod,
    String.append_assoc]

theorem lines_makerItem : (makerItem s m).lines = (CommandMaker.ofMethod s m).lines := by
  simp [makerItem, CommandMaker.lines, CommandMaker.header, CommandMaker.ofMethod,
    String.append_assoc]

theorem wordsText_specWords (name : String) : wordsText (specWords s name)
    = name ++ ": " ++ (sharedType ++ "<" ++ s.path ++ ">") := by
  simp [specWords, String.append_assoc]

theorem lines_recordItem : (recordItem s m).lines = (CommandType.ofMethod s m).typeLines := by
  have hspec : (specItem s).lines = (CommandType.specFields s).flatMap fun f =>
      line (f.member ++ ": " ++ f.type ++ ",") := by
    unfold specItem CommandType.specFields
    split
    · simp [wordsText_specWords, String.append_assoc]
    · rfl
  have hfields : (CommandType.ofMethod s m).fields
      = CommandType.specFields s ++ m.captured.map CommandType.capturedField := rfl
  have hparams : (CommandType.ofMethod s m).typeParams = m.typeParams := rfl
  unfold recordItem CommandType.typeLines
  rw [hparams]
  cases hempty : (CommandType.ofMethod s m).fields.isEmpty with
  | true => simp only [hempty, if_true, Item.lines_append, Item.lines_ofLines]
  | false =>
    simp only [hempty, Bool.false_eq_true, if_false]
    simp [hspec, hfields]

theorem wordsText_newParamWords : (newParamWords s m).map wordsText
    = (CommandType.ofMethod s m).fields.map fun f => f.param ++ ": " ++ f.type := by
  unfold newParamWords CommandType.ofMethod CommandType.specFields
  split <;> simp [wordsText_specWords, CommandType.capturedField, Binding.text, Param.binding]

theorem lines_newItem : (newItem s m).lines = (CommandType.ofMethod s m).newLines := by
  simp [newItem, CommandType.newLines, CommandType.applied, wordsText_newParamWords,
    CommandType.ofMethod, String.append_assoc]

theorem lines_downcastItems :
    (downcastItems s m).lines = (CommandType.ofMethod s m).downcastLines s := by
  have hslots : (CommandType.ofMethod s m).slots.isEmpty = m.slots.isEmpty := List.isEmpty_map
  unfold downcastItems CommandType.downcastLines
  rw [hslots]
  split
  · rfl
  · simp [downcastItem, Handles.downcastContainer, Handles.downcastComponentMut, line,
      ← String.toList_inj]

theorem wordsText_calleeWords :
    wordsText (calleeWords s) = (CommandType.ofMethod s m).receiver := by
  unfold calleeWords CommandType.ofMethod
  split <;> simp

theorem lines_applyItem : (applyItem s m).lines = (CommandType.ofMethod s m).applyLines s := by
  have hslots : (CommandType.ofMethod s m).slots.isEmpty = m.slots.isEmpty := List.isEmpty_map
  have hparams : (CommandType.ofMethod s m).typeParams = m.typeParams := rfl
  have hmethod : (CommandType.ofMethod s m).method = m.name := rfl
  unfold applyItem CommandType.applyLines
  rw [hslots, hparams]
  simp [lines_downcastItems, wordsText_calleeWords s m, CommandType.bodyLines, CommandType.applied,
    CommandType.callText, hparams, hmethod, String.append_assoc]

end Lines

/-! ## 5. What they name -/

section Types

variable {s : Spec} {m : Method} {ps : List TypeParam} {timing : Timing} {item : Item} {t : String}

@[simp] theorem chosenBy_paramNames :
    chosenBy .spec (ps.map fun p => paramName p.name) = ps.map (·.name) := by
  induction ps with
  | nil => rfl
  | cons p ps ih => simp [ih]

@[simp] theorem chosenBy_synthesis_paramNames :
    chosenBy .synthesis (ps.map fun p => paramName p.name) = [] := by
  induction ps with
  | nil => rfl
  | cons p ps ih => simp [ih]

/-- An entry point names the component. -/
theorem types_entryItem : (entryItem s m timing).types = [s.component] ∧
    (entryItem s m timing).params = m.typeParams.map (·.name) := by
  simp [entryItem, scopeItem]

/-- The constructor of a command names the command. -/
theorem types_makerItem :
    (makerItem s m).types = [commandTypeName m.name, commandTypeName m.name] ∧
      (makerItem s m).params = m.typeParams.map (·.name) := by
  simp [makerItem, CommandMaker.ofMethod]

/-- The declaration of a command names the spec's own type if the command holds an instance. -/
theorem types_recordItem : (recordItem s m).types ⊆ [pathHead s.path] ∧
    (recordItem s m).params ⊆ m.typeParams.map (·.name) := by
  have hspec : (specItem s).types ⊆ [pathHead s.path] ∧ (specItem s).params = [] := by
    unfold specItem
    split <;> simp [specWords]
  unfold recordItem
  cases hempty : (CommandType.ofMethod s m).fields.isEmpty with
  | true =>
    simp only [hempty, if_true]
    simp
  | false =>
    simp only [hempty, Bool.false_eq_true, if_false]
    simpa [hspec.2] using hspec.1

/-- So does what a command is made of. -/
theorem types_newItem : (newItem s m).types
      = commandTypeName m.name :: (if s.isInjected then [pathHead s.path] else []) ∧
    (newItem s m).params = m.typeParams.map (·.name) := by
  cases hinjected : s.isInjected <;>
    simp [newItem, newParamWords, specWords, hinjected, CommandType.ofMethod, List.flatMap_map]

/-- The implementation of a command names the command, what its slots need, and the spec's own type
if the command holds no instance. -/
theorem types_applyItem : (applyItem s m).types
      = commandTypeName m.name :: ((if m.slots.isEmpty then [] else [s.containerName, s.component]) ++
        (if s.isInjected then [] else [pathHead s.path])) ∧
    (applyItem s m).params = m.typeParams.map (·.name) := by
  have hdowncast : (downcastItems s m).types
      = (if m.slots.isEmpty then [] else [s.containerName, s.component]) ∧
        (downcastItems s m).params = [] := by
    unfold downcastItems
    split <;> simp [downcastItem]
  cases hinjected : s.isInjected <;>
    simp [applyItem, calleeWords, hdowncast, hinjected, CommandType.ofMethod]

/-- All that an item names are types that the method names, and its type parameters are those of the
method. -/
theorem subset_of_mem_items (h : item ∈ m.items s) :
    item.types ⊆ m.namedTypes s ∧ item.params ⊆ m.typeParams.map (·.name) := by
  have hentry : ∀ timing, (entryItem s m timing).types ⊆ m.namedTypes s ∧
      (entryItem s m timing).params ⊆ m.typeParams.map (·.name) := by
    intro timing
    simp [types_entryItem, Method.namedTypes]
  unfold Method.items at h
  simp only [List.mem_cons, List.not_mem_nil, or_false] at h
  rcases h with rfl | rfl | rfl | rfl | rfl | rfl
  · exact hentry .sync
  · exact hentry .async
  · simp [types_makerItem, Method.namedTypes]
  · obtain ⟨htypes, hparams⟩ := types_recordItem (s := s) (m := m)
    exact ⟨List.Subset.trans htypes (by simp [Method.namedTypes]), hparams⟩
  · rw [types_newItem.1, types_newItem.2]
    cases s.isInjected <;> simp [Method.namedTypes]
  · rw [types_applyItem.1, types_applyItem.2]
    cases s.isInjected <;> cases hslots : m.slots.isEmpty <;> simp [Method.namedTypes, hslots]

/-- Each type that a method names is named by an item with all type parameters. -/
theorem exists_item_of_mem_namedTypes (h : t ∈ m.namedTypes s) :
    ∃ item ∈ m.items s, t ∈ item.types ∧ item.params = m.typeParams.map (·.name) := by
  unfold Method.namedTypes at h
  simp only [List.mem_append, List.mem_cons, List.not_mem_nil, or_false] at h
  rcases h with (rfl | rfl | rfl) | h
  · exact ⟨entryItem s m .sync, by simp [Method.items], by simp [types_entryItem]⟩
  · exact ⟨makerItem s m, by simp [Method.items], by simp [types_makerItem]⟩
  · cases hinjected : s.isInjected with
    | true => exact ⟨newItem s m, by simp [Method.items], by simp [types_newItem, hinjected]⟩
    | false => exact ⟨applyItem s m, by simp [Method.items], by simp [types_applyItem, hinjected]⟩
  · cases hslots : m.slots.isEmpty with
    | true => simp [hslots] at h
    | false =>
      have hcontainer : t = s.containerName := by simpa [hslots] using h
      exact ⟨applyItem s m, by simp [Method.items], by simp [types_applyItem, hslots, hcontainer]⟩

/-- **The items of a method are apart just if no type parameter has the name of a type that they
name.** -/
theorem forall_items_apart_iff : (∀ item ∈ m.items s, item.Apart) ↔
    ∀ p ∈ m.typeParams, p.name ∉ m.namedTypes s := by
  constructor
  · intro h p hp hname
    obtain ⟨item, hitem, htype, hparams⟩ := exists_item_of_mem_namedTypes hname
    refine h item hitem p.name htype ?_
    rw [hparams]
    exact List.mem_map_of_mem hp
  · intro h item hitem t ht hparam
    obtain ⟨htypes, hparams⟩ := subset_of_mem_items hitem
    obtain ⟨p, hp, rfl⟩ := List.mem_map.mp (hparams hparam)
    exact h p hp (htypes ht)

end Types

/-! ## 6. All types -/

/-- **The names of types are clear.**  The component, the container, the commands and the spec's own
type, if that is in the same module, have names of their own, and no type parameter hides one of them
in an item that names it. -/
structure Spec.TypesClear (s : Spec) (a : Artifacts) : Prop where
  differ : (s.component :: a.typeNames).Nodup
  spec_differs : isIdentifier s.path = true → s.path ∉ s.component :: a.typeNames
  apart : ∀ m ∈ s.methods, ∀ item ∈ m.items s, item.Apart

/-- The items of a method are synthesised for it. -/
structure Method.Emitted (s : Spec) (a : Artifacts) (m : Method) : Prop where
  entryPoints : ∀ timing, ⟨entryPointName m.name timing, .inherent,
    renderLines 1 (entryItem s m timing).lines⟩ ∈ a.functions
  constructor : ⟨constructorName m.name, .inherent, renderLines 1 (makerItem s m).lines⟩ ∈ a.functions
  command : ⟨commandTypeName m.name, renderLines 0 ((recordItem s m).lines ++ blank ++
    (newItem s m).lines ++ blank ++ (applyItem s m).lines)⟩ ∈ a.types

/-- What is synthesised for a spec with state has the items of all methods. -/
theorem Spec.emitted_of_mem {s : Spec} (hstate : s.hasState = true) {m : Method}
    (hm : m ∈ s.methods) : m.Emitted s s.artifacts where
  entryPoints timing := by
    rw [lines_entryItem]
    exact (mem_artifacts hstate hm).1 timing
  constructor := by
    rw [lines_makerItem]
    exact (mem_artifacts hstate hm).2.1
  command := by
    rw [lines_recordItem, lines_newItem, lines_applyItem]
    exact (mem_artifacts hstate hm).2.2

/-- **Names of types in what is synthesised.**  The component and all types that are synthesised for
a sound spec have names of their own.  The names of types are clear just if the spec's own type has
none of these names, and if no type parameter of a method has the name of a type that the items of
this method name. -/
theorem typesClear_synthesized_iff {s : Spec} {a : Artifacts} (h : s.synthesize = .ok a)
    (hstate : s.hasState = true) :
    (s.component :: a.typeNames).Nodup ∧ (∀ m ∈ s.methods, m.Emitted s a) ∧
    (s.TypesClear a ↔
      (isIdentifier s.path = true → s.path ∉ s.component :: a.typeNames) ∧
        ∀ m ∈ s.methods, ∀ p ∈ m.typeParams, p.name ∉ m.namedTypes s) := by
  obtain ⟨hwell, rfl⟩ := Spec.synthesize_eq_ok_iff.mp h
  have hfields : s.fields ≠ [] := by simpa [Spec.hasState] using hstate
  have hdiffer : (s.component :: s.artifacts.typeNames).Nodup := by
    rw [Spec.typeNames_artifacts hstate]
    exact hwell.types_differ hfields
  refine ⟨hdiffer, fun m hm => Spec.emitted_of_mem hstate hm, ?_⟩
  constructor
  · intro hclear
    exact ⟨hclear.spec_differs, fun m hm => forall_items_apart_iff.mp (hclear.apart m hm)⟩
  · rintro ⟨hspec, hparams⟩
    exact ⟨hdiffer, hspec, fun m hm => forall_items_apart_iff.mpr (hparams m hm)⟩

/-- A counter to which anything can be added that becomes a number. -/
def counterOf (param : String) : Spec :=
  { Spec.ofComponent "Counter" with
    fields := [⟨"count", "i32", true⟩]
    methods := [⟨"add", [⟨param, "Into<i32>"⟩],
      [⟨.captured, "amount", param⟩, ⟨.slot, "count", "i32"⟩]⟩] }

/-- The check accepts it without defects. -/
theorem synthesize_counterOf (param : String) (h : (counterOf param).defects = []) :
    (counterOf param).synthesize = .ok (counterOf param).artifacts :=
  Spec.synthesize_eq_ok_iff.mpr ⟨defects_eq_nil_iff.mp h, rfl⟩

/-- With a type parameter of a name of its own the names of types are clear. -/
theorem typesClear_counterOf :
    (counterOf "T").synthesize = .ok (counterOf "T").artifacts ∧
      (counterOf "T").hasState = true ∧ (counterOf "T").TypesClear (counterOf "T").artifacts := by
  have hsynthesize := synthesize_counterOf "T" (by decide)
  refine ⟨hsynthesize, rfl, (typesClear_synthesized_iff hsynthesize rfl).2.2.mpr ⟨fun _ => ?_, ?_⟩⟩
  · rw [Spec.typeNames_artifacts rfl]
    decide
  · decide

/-- **A sound spec can have a type parameter that hides the component.** -/
theorem not_typesClear_synthesized :
    ¬ ∀ (s : Spec) (a : Artifacts), s.synthesize = .ok a → s.hasState = true → s.TypesClear a := by
  intro hall
  have hclear := hall _ _ (synthesize_counterOf "Counter" (by decide)) rfl
  have hhidden := forall_items_apart_iff.mp (hclear.apart _ (List.mem_singleton.mpr rfl))
  exact hhidden ⟨"Counter", "Into<i32>"⟩ (List.mem_singleton.mpr rfl) (by decide)

end Carryover
