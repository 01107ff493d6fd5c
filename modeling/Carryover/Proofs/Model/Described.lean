/-
# What a document describes

`Spec.DescribedBy t s`: the tree is the spec `s`.  For each kind of record one structure says what
has to be given and what is assumed for the rest, in terms of the keys and values that the record
gives (`Field.GivenBy` and the like); how a record gives them is the same for all
(`Tree.IsRecord`).

A record is read by way of a draft.  For each draft stands its `Layout`, which is what makes
`Shape.Layout.read_bind_eq_ok_iff` apply to it, and next to it the lemma that the record is read
exactly where it is described.  The end is what a whole text describes.
-/
import Carryover.Proofs.Json.Accepted
import Carryover.Proofs.Model.Parameter

namespace Carryover

open Json

/-! ## 1. What the records are -/

/-- What is given of a state field. -/
structure Field.GivenBy (ps : List (String × Tree)) (f : Field) : Prop where
  name : Present Tree.IsText (ps.lookup "name") f.name
  type : Present Tree.IsText (ps.lookup "ty") f.type
  isLazy : Defaulted Tree.IsBool false (ps.lookup "can_update_lazily") f.isLazy

/-- The value is this state field. -/
def Field.DescribedBy (t : Tree) (f : Field) : Prop :=
  ∃ ps, t.IsRecord ["name", "ty", "can_update_lazily"] ps ∧ f.GivenBy ps

/-- What is given of a type parameter. -/
structure TypeParam.GivenBy (ps : List (String × Tree)) (p : TypeParam) : Prop where
  name : Present Tree.IsText (ps.lookup "name") p.name
  bounds : Defaulted Tree.IsText "" (ps.lookup "bounds") p.bounds

/-- The value is this type parameter. -/
def TypeParam.DescribedBy (t : Tree) (p : TypeParam) : Prop :=
  ∃ ps, t.IsRecord ["name", "bounds"] ps ∧ p.GivenBy ps

/-- The lists and objects that are open around a parameter: the spec, its methods, one of them, and
the parameters of that one. -/
def Param.nesting : Nat := 4

/-- What is given of a method. -/
structure Method.GivenBy (ps : List (String × Tree)) (m : Method) : Prop where
  name : Present Tree.IsText (ps.lookup "name") m.name
  typeParams :
    Defaulted (Tree.IsListOf TypeParam.DescribedBy) [] (ps.lookup "type_params") m.typeParams
  params :
    Defaulted (Tree.IsListOf (Param.DescribedBy (maxNesting - Param.nesting))) []
      (ps.lookup "params") m.params

/-- The value is this method. -/
def Method.DescribedBy (t : Tree) (m : Method) : Prop :=
  ∃ ps, t.IsRecord ["name", "type_params", "params"] ps ∧ m.GivenBy ps

/-- What is given of the handles; each of them may be left out on its own. -/
structure Handles.GivenBy (ps : List (String × Tree)) (h : Handles) : Prop where
  context : Defaulted Tree.IsText Handles.standard.context (ps.lookup "context") h.context
  component : Defaulted Tree.IsText Handles.standard.component (ps.lookup "component") h.component
  container :
    Defaulted Tree.IsText Handles.standard.container (ps.lookup "state_container") h.container
  update :
    Defaulted Tree.IsText Handles.standard.update (ps.lookup "update_state_interface") h.update
  runtime : Defaulted Tree.IsText Handles.standard.runtime (ps.lookup "runtime") h.runtime

/-- The value is these handles. -/
def Handles.DescribedBy (t : Tree) (h : Handles) : Prop :=
  ∃ ps, t.IsRecord ["context", "component", "state_container", "update_state_interface", "runtime"]
    ps ∧ h.GivenBy ps

/-- What is given of a spec. -/
structure Spec.GivenBy (ps : List (String × Tree)) (s : Spec) : Prop where
  path : Present Tree.IsText (ps.lookup "name") s.path
  component : Present Tree.IsText (ps.lookup "component_name") s.component
  fields : Defaulted (Tree.IsListOf Field.DescribedBy) [] (ps.lookup "state_values") s.fields
  methods :
    Defaulted (Tree.IsListOf Method.DescribedBy) [] (ps.lookup "update_state_methods") s.methods
  handles : Defaulted Handles.DescribedBy Handles.standard (ps.lookup "types") s.handles
  isInjected : Defaulted Tree.IsBool false (ps.lookup "injected_dependencies") s.isInjected
  wantsMarker : Defaulted Tree.IsBool true (ps.lookup "generate_has_state") s.wantsMarker

/-- The value is this spec. -/
def Spec.DescribedBy (t : Tree) (s : Spec) : Prop :=
  ∃ ps, t.IsRecord ["name", "component_name", "state_values", "update_state_methods", "types",
    "injected_dependencies", "generate_has_state"] ps ∧ s.GivenBy ps

/-! ## 2. Entries -/

section Entries

variable {δ α : Type} {key : String} {room : Nat}

/-- The slot of an entry for a text. -/
def textSlot (key : String) (get : δ → Option String) (put : δ → String → δ) : Slot δ :=
  ⟨String, key, Tree.asText, get, put⟩

/-- The slot of an entry for a truth value. -/
def boolSlot (key : String) (get : δ → Option Bool) (put : δ → Bool → δ) : Slot δ :=
  ⟨Bool, key, Tree.asBool, get, put⟩

/-- The slot of an entry that has a reader of its own. -/
def readSlot (key : String) (read : Tree → Except Problem α) (get : δ → Option α)
    (put : δ → α → δ) : Slot δ :=
  ⟨α, key, read, get, put⟩

theorem textEntry_fills {isRequired : Bool} {get : δ → Option String} {put : δ → String → δ} :
    (textEntry key isRequired get put).Fills room (textSlot key get put) :=
  ⟨rfl, fun _ => rfl, fun _ _ => rfl⟩

theorem boolEntry_fills {get : δ → Option Bool} {put : δ → Bool → δ} :
    (boolEntry key get put).Fills room (boolSlot key get put) :=
  ⟨rfl, fun _ => rfl, fun _ _ => rfl⟩

theorem optionalEntry_fills {read : Reader α} {get : δ → Option α} {put : δ → α → δ} :
    (optionalEntry key read get put).Fills room (readSlot key (read room) get put) :=
  ⟨rfl, fun _ => rfl, fun _ _ => rfl⟩

variable {given : Option Tree}

theorem text_present_iff {s : String} :
    (∃ held : Option String, given.map Tree.asText = held.map .ok ∧ held = some s) ↔
      Present Tree.IsText given s :=
  exists_held_iff_present fun _ _ => Tree.asText_eq_ok_iff

theorem text_defaulted_iff {default s : String} :
    (∃ held : Option String, given.map Tree.asText = held.map .ok ∧ held.getD default = s) ↔
      Defaulted Tree.IsText default given s :=
  exists_held_iff_defaulted fun _ _ => Tree.asText_eq_ok_iff

theorem bool_defaulted_iff {default b : Bool} :
    (∃ held : Option Bool, given.map Tree.asBool = held.map .ok ∧ held.getD default = b) ↔
      Defaulted Tree.IsBool default given b :=
  exists_held_iff_defaulted fun _ _ => Tree.asBool_eq_ok_iff

theorem list_defaulted_iff {read : Reader α} {Says : Tree → α → Prop} (hroom : 1 < room)
    (hread : ∀ t a, read (room - 1) t = .ok a ↔ Says t a) {as : List α} :
    (∃ held : Option (List α), given.map (readList read room) = held.map .ok ∧
      held.getD [] = as) ↔ Defaulted (Tree.IsListOf Says) [] given as :=
  exists_held_iff_defaulted fun _ _ => readList_eq_ok_iff hroom hread

end Entries

/-! ## 3. State fields -/

/-- The slots of a state field. -/
def FieldDraft.slots : List (Slot FieldDraft) := [
  textSlot "name" (·.name?) fun d v => { d with name? := some v },
  textSlot "ty" (·.type?) fun d v => { d with type? := some v },
  boolSlot "can_update_lazily" (·.isLazy?) fun d v => { d with isLazy? := some v }]

theorem FieldDraft.layout (room : Nat) :
    FieldDraft.shape.Layout room ⟨none, none, none⟩ FieldDraft.slots where
  filled := .cons textEntry_fills (.cons textEntry_fills (.cons boolEntry_fills .nil))
  keys_differ := by decide
  get_empty := by simp [FieldDraft.slots, textSlot, boolSlot]
  get_put := by simp [FieldDraft.slots, textSlot, boolSlot]
  get_put_other := by simp [FieldDraft.slots, textSlot, boolSlot]
  ext := by
    rintro ⟨⟩ ⟨⟩
    simp [FieldDraft.slots, textSlot, boolSlot]

/-- **A state field is read** exactly where it is described. -/
theorem Field.read_eq_ok_iff {room : Nat} (hroom : 1 < room) {t : Tree} {f : Field} :
    Field.read room t = .ok f ↔ f.DescribedBy t := by
  unfold Field.read Field.DescribedBy
  rw [(FieldDraft.layout (room - 1)).read_bind_eq_ok_iff hroom]
  · refine exists_congr fun ps => and_congr_right fun _ => ?_
    simp only [Agrees, FieldDraft.slots, List.forall_mem_cons, bind_eq_ok_iff, pure_eq_ok_iff,
      orMissing_eq_ok_iff]
    constructor
    · rintro ⟨d, ⟨hname, htype, hlazy, -⟩, name, hname', type, htype', rfl⟩
      exact ⟨text_present_iff.mp ⟨_, hname, hname'⟩, text_present_iff.mp ⟨_, htype, htype'⟩,
        bool_defaulted_iff.mp ⟨_, hlazy, rfl⟩⟩
    · rintro ⟨hname, htype, hlazy⟩
      obtain ⟨name?, hname, hname'⟩ := text_present_iff.mpr hname
      obtain ⟨type?, htype, htype'⟩ := text_present_iff.mpr htype
      obtain ⟨lazy?, hlazy, hlazy'⟩ := bool_defaulted_iff.mpr hlazy
      refine ⟨⟨name?, type?, lazy?⟩, ⟨hname, htype, hlazy, List.forall_mem_nil _⟩,
        _, hname', _, htype', ?_⟩
      rw [hlazy']
  · intro d hd
    simp only [bind_eq_ok_iff, orMissing_eq_ok_iff] at hd
    obtain ⟨name, hname, type, htype, -⟩ := hd
    simp [FieldDraft.shape, textEntry, boolEntry, hname, htype]

/-! ## 4. Methods -/

/-- The slots of a type parameter. -/
def TypeParamDraft.slots : List (Slot TypeParamDraft) := [
  textSlot "name" (·.name?) fun d v => { d with name? := some v },
  textSlot "bounds" (·.bounds?) fun d v => { d with bounds? := some v }]

theorem TypeParamDraft.layout (room : Nat) :
    TypeParamDraft.shape.Layout room ⟨none, none⟩ TypeParamDraft.slots where
  filled := .cons textEntry_fills (.cons textEntry_fills .nil)
  keys_differ := by decide
  get_empty := by simp [TypeParamDraft.slots, textSlot]
  get_put := by simp [TypeParamDraft.slots, textSlot]
  get_put_other := by simp [TypeParamDraft.slots, textSlot]
  ext := by
    rintro ⟨⟩ ⟨⟩
    simp [TypeParamDraft.slots, textSlot]

/-- **A type parameter is read** exactly where it is described. -/
theorem TypeParam.read_eq_ok_iff {room : Nat} (hroom : 1 < room) {t : Tree} {p : TypeParam} :
    TypeParam.read room t = .ok p ↔ p.DescribedBy t := by
  unfold TypeParam.read TypeParam.DescribedBy
  rw [(TypeParamDraft.layout (room - 1)).read_bind_eq_ok_iff hroom]
  · refine exists_congr fun ps => and_congr_right fun _ => ?_
    simp only [Agrees, TypeParamDraft.slots, List.forall_mem_cons, bind_eq_ok_iff, pure_eq_ok_iff,
      orMissing_eq_ok_iff]
    constructor
    · rintro ⟨d, ⟨hname, hbounds, -⟩, name, hname', rfl⟩
      exact ⟨text_present_iff.mp ⟨_, hname, hname'⟩, text_defaulted_iff.mp ⟨_, hbounds, rfl⟩⟩
    · rintro ⟨hname, hbounds⟩
      obtain ⟨name?, hname, hname'⟩ := text_present_iff.mpr hname
      obtain ⟨bounds?, hbounds, hbounds'⟩ := text_defaulted_iff.mpr hbounds
      refine ⟨⟨name?, bounds?⟩, ⟨hname, hbounds, List.forall_mem_nil _⟩, _, hname', ?_⟩
      rw [hbounds']
  · intro d hd
    simp only [bind_eq_ok_iff, orMissing_eq_ok_iff] at hd
    obtain ⟨name, hname, -⟩ := hd
    simp [TypeParamDraft.shape, textEntry, hname]

/-- The slots of a method. -/
def MethodDraft.slots (room : Nat) : List (Slot MethodDraft) := [
  textSlot "name" (·.name?) fun d v => { d with name? := some v },
  readSlot "type_params" (readList TypeParam.read room) (·.typeParams?)
    fun d v => { d with typeParams? := some v },
  readSlot "params" (readList Param.read room) (·.params?) fun d v => { d with params? := some v }]

theorem MethodDraft.layout (room : Nat) :
    MethodDraft.shape.Layout room ⟨none, none, none⟩ (MethodDraft.slots room) where
  filled := .cons textEntry_fills (.cons optionalEntry_fills (.cons optionalEntry_fills .nil))
  keys_differ := by simp [MethodDraft.slots, textSlot, readSlot]
  get_empty := by simp [MethodDraft.slots, textSlot, readSlot]
  get_put := by simp [MethodDraft.slots, textSlot, readSlot]
  get_put_other := by simp [MethodDraft.slots, textSlot, readSlot]
  ext := by
    rintro ⟨⟩ ⟨⟩
    simp [MethodDraft.slots, textSlot, readSlot]

/-- **A method is read** exactly where it is described, with the room that it has in a document. -/
theorem Method.read_eq_ok_iff {room : Nat} (hroom : room + 2 = maxNesting) {t : Tree} {m : Method} :
    Method.read room t = .ok m ↔ m.DescribedBy t := by
  have htypeParam : ∀ t p, TypeParam.read (room - 1 - 1) t = .ok p ↔ p.DescribedBy t :=
    fun _ _ => TypeParam.read_eq_ok_iff (by unfold maxNesting at hroom; omega)
  have hparam : ∀ t p, Param.read (room - 1 - 1) t = .ok p ↔
      p.DescribedBy (maxNesting - Param.nesting) t := by
    have hrest : room - 1 - 1 = maxNesting - Param.nesting := by
      unfold Param.nesting
      omega
    rw [hrest]
    exact fun _ _ => Param.read_eq_ok_iff (by decide)
  have hlist : 1 < room - 1 := by
    unfold maxNesting at hroom
    omega
  unfold Method.read Method.DescribedBy
  rw [(MethodDraft.layout (room - 1)).read_bind_eq_ok_iff (by omega)]
  · refine exists_congr fun ps => and_congr_right fun _ => ?_
    simp only [Agrees, MethodDraft.slots, List.forall_mem_cons, bind_eq_ok_iff, pure_eq_ok_iff,
      orMissing_eq_ok_iff]
    constructor
    · rintro ⟨d, ⟨hname, htypeParams, hparams, -⟩, name, hname', rfl⟩
      exact ⟨text_present_iff.mp ⟨_, hname, hname'⟩,
        (list_defaulted_iff hlist htypeParam).mp ⟨_, htypeParams, rfl⟩,
        (list_defaulted_iff hlist hparam).mp ⟨_, hparams, rfl⟩⟩
    · rintro ⟨hname, htypeParams, hparams⟩
      obtain ⟨name?, hname, hname'⟩ := text_present_iff.mpr hname
      obtain ⟨typeParams?, htypeParams, htypeParams'⟩ :=
        (list_defaulted_iff hlist htypeParam).mpr htypeParams
      obtain ⟨params?, hparams, hparams'⟩ := (list_defaulted_iff hlist hparam).mpr hparams
      refine ⟨⟨name?, typeParams?, params?⟩,
        ⟨hname, htypeParams, hparams, List.forall_mem_nil _⟩, _, hname', ?_⟩
      rw [htypeParams', hparams']
  · intro d hd
    simp only [bind_eq_ok_iff, orMissing_eq_ok_iff] at hd
    obtain ⟨name, hname, -⟩ := hd
    simp [MethodDraft.shape, textEntry, optionalEntry, hname]

/-! ## 5. Handles -/

/-- The slots of the handles. -/
def HandlesDraft.slots : List (Slot HandlesDraft) := [
  textSlot "context" (·.context?) fun d v => { d with context? := some v },
  textSlot "component" (·.component?) fun d v => { d with component? := some v },
  textSlot "state_container" (·.container?) fun d v => { d with container? := some v },
  textSlot "update_state_interface" (·.update?) fun d v => { d with update? := some v },
  textSlot "runtime" (·.runtime?) fun d v => { d with runtime? := some v }]

theorem HandlesDraft.layout (room : Nat) :
    HandlesDraft.shape.Layout room ⟨none, none, none, none, none⟩ HandlesDraft.slots where
  filled := .cons textEntry_fills (.cons textEntry_fills (.cons textEntry_fills
    (.cons textEntry_fills (.cons textEntry_fills .nil))))
  keys_differ := by decide
  get_empty := by simp [HandlesDraft.slots, textSlot]
  get_put := by simp [HandlesDraft.slots, textSlot]
  get_put_other := by simp [HandlesDraft.slots, textSlot]
  ext := by
    rintro ⟨⟩ ⟨⟩
    simp [HandlesDraft.slots, textSlot]

/-- **Handles are read** exactly where they are described. -/
theorem Handles.read_eq_ok_iff {room : Nat} (hroom : 1 < room) {t : Tree} {h : Handles} :
    Handles.read room t = .ok h ↔ h.DescribedBy t := by
  unfold Handles.read Handles.DescribedBy
  rw [(HandlesDraft.layout (room - 1)).read_bind_eq_ok_iff hroom]
  · refine exists_congr fun ps => and_congr_right fun _ => ?_
    simp only [Agrees, HandlesDraft.slots, List.forall_mem_cons, pure_eq_ok_iff]
    constructor
    · rintro ⟨d, ⟨hcontext, hcomponent, hcontainer, hupdate, hruntime, -⟩, rfl⟩
      exact ⟨text_defaulted_iff.mp ⟨_, hcontext, rfl⟩, text_defaulted_iff.mp ⟨_, hcomponent, rfl⟩,
        text_defaulted_iff.mp ⟨_, hcontainer, rfl⟩, text_defaulted_iff.mp ⟨_, hupdate, rfl⟩,
        text_defaulted_iff.mp ⟨_, hruntime, rfl⟩⟩
    · rintro ⟨hcontext, hcomponent, hcontainer, hupdate, hruntime⟩
      obtain ⟨context?, hcontext, hcontext'⟩ := text_defaulted_iff.mpr hcontext
      obtain ⟨component?, hcomponent, hcomponent'⟩ := text_defaulted_iff.mpr hcomponent
      obtain ⟨container?, hcontainer, hcontainer'⟩ := text_defaulted_iff.mpr hcontainer
      obtain ⟨update?, hupdate, hupdate'⟩ := text_defaulted_iff.mpr hupdate
      obtain ⟨runtime?, hruntime, hruntime'⟩ := text_defaulted_iff.mpr hruntime
      refine ⟨⟨context?, component?, container?, update?, runtime?⟩,
        ⟨hcontext, hcomponent, hcontainer, hupdate, hruntime, List.forall_mem_nil _⟩, ?_⟩
      rw [hcontext', hcomponent', hcontainer', hupdate', hruntime']
  · simp [HandlesDraft.shape, textEntry]

/-! ## 6. Specs -/

/-- The slots of a spec. -/
def SpecDraft.slots (room : Nat) : List (Slot SpecDraft) := [
  textSlot "name" (·.path?) fun d v => { d with path? := some v },
  textSlot "component_name" (·.component?) fun d v => { d with component? := some v },
  readSlot "state_values" (readList Field.read room) (·.fields?)
    fun d v => { d with fields? := some v },
  readSlot "update_state_methods" (readList Method.read room) (·.methods?)
    fun d v => { d with methods? := some v },
  readSlot "types" (Handles.read room) (·.handles?) fun d v => { d with handles? := some v },
  boolSlot "injected_dependencies" (·.isInjected?) fun d v => { d with isInjected? := some v },
  boolSlot "generate_has_state" (·.wantsMarker?) fun d v => { d with wantsMarker? := some v }]

theorem SpecDraft.layout (room : Nat) :
    SpecDraft.shape.Layout room ⟨none, none, none, none, none, none, none⟩
      (SpecDraft.slots room) where
  filled := .cons textEntry_fills (.cons textEntry_fills (.cons optionalEntry_fills
    (.cons optionalEntry_fills (.cons optionalEntry_fills (.cons boolEntry_fills
      (.cons boolEntry_fills .nil))))))
  keys_differ := by simp [SpecDraft.slots, textSlot, boolSlot, readSlot]
  get_empty := by simp [SpecDraft.slots, textSlot, boolSlot, readSlot]
  get_put := by simp [SpecDraft.slots, textSlot, boolSlot, readSlot]
  get_put_other := by simp [SpecDraft.slots, textSlot, boolSlot, readSlot]
  ext := by
    rintro ⟨⟩ ⟨⟩
    simp [SpecDraft.slots, textSlot, boolSlot, readSlot]

/-- **A spec is read** exactly where it is described. -/
theorem Spec.read_eq_ok_iff {t : Tree} {s : Spec} :
    Spec.read maxNesting t = .ok s ↔ s.DescribedBy t := by
  have hlist : 1 < maxNesting - 1 := by decide
  have hfield : ∀ t f, Field.read (maxNesting - 1 - 1) t = .ok f ↔ f.DescribedBy t :=
    fun _ _ => Field.read_eq_ok_iff (by decide)
  have hmethod : ∀ t m, Method.read (maxNesting - 1 - 1) t = .ok m ↔ m.DescribedBy t :=
    fun _ _ => Method.read_eq_ok_iff rfl
  have hhandles : ∀ t h, Handles.read (maxNesting - 1) t = .ok h ↔ h.DescribedBy t :=
    fun _ _ => Handles.read_eq_ok_iff hlist
  unfold Spec.read Spec.DescribedBy
  rw [(SpecDraft.layout (maxNesting - 1)).read_bind_eq_ok_iff (by decide)]
  · refine exists_congr fun ps => and_congr_right fun _ => ?_
    simp only [Agrees, SpecDraft.slots, List.forall_mem_cons, bind_eq_ok_iff, pure_eq_ok_iff,
      orMissing_eq_ok_iff]
    constructor
    · rintro ⟨d, ⟨hpath, hcomponent, hfields, hmethods, hheld, hinjected, hmarker, -⟩,
        path, hpath', component, hcomponent', rfl⟩
      exact ⟨text_present_iff.mp ⟨_, hpath, hpath'⟩,
        text_present_iff.mp ⟨_, hcomponent, hcomponent'⟩,
        (list_defaulted_iff hlist hfield).mp ⟨_, hfields, rfl⟩,
        (list_defaulted_iff hlist hmethod).mp ⟨_, hmethods, rfl⟩,
        (exists_held_iff_defaulted hhandles).mp ⟨_, hheld, rfl⟩,
        bool_defaulted_iff.mp ⟨_, hinjected, rfl⟩, bool_defaulted_iff.mp ⟨_, hmarker, rfl⟩⟩
    · rintro ⟨hpath, hcomponent, hfields, hmethods, hheld, hinjected, hmarker⟩
      obtain ⟨path?, hpath, hpath'⟩ := text_present_iff.mpr hpath
      obtain ⟨component?, hcomponent, hcomponent'⟩ := text_present_iff.mpr hcomponent
      obtain ⟨fields?, hfields, hfields'⟩ := (list_defaulted_iff hlist hfield).mpr hfields
      obtain ⟨methods?, hmethods, hmethods'⟩ := (list_defaulted_iff hlist hmethod).mpr hmethods
      obtain ⟨handles?, hheld, hheld'⟩ := (exists_held_iff_defaulted hhandles).mpr hheld
      obtain ⟨injected?, hinjected, hinjected'⟩ := bool_defaulted_iff.mpr hinjected
      obtain ⟨marker?, hmarker, hmarker'⟩ := bool_defaulted_iff.mpr hmarker
      refine ⟨⟨path?, component?, fields?, methods?, handles?, injected?, marker?⟩,
        ⟨hpath, hcomponent, hfields, hmethods, hheld, hinjected, hmarker, List.forall_mem_nil _⟩,
        _, hpath', _, hcomponent', ?_⟩
      rw [hfields', hmethods', hheld', hinjected', hmarker']
  · intro d hd
    simp only [bind_eq_ok_iff, orMissing_eq_ok_iff] at hd
    obtain ⟨path, hpath, component, hcomponent, -⟩ := hd
    simp [SpecDraft.shape, textEntry, boolEntry, optionalEntry, hpath, hcomponent]

/-- **A text is accepted exactly if it is a document that describes a spec**, and then as that
spec. -/
theorem Spec.ofText_eq_ok_iff_described (text : String) (s : Spec) :
    Spec.ofText text = .ok s ↔
      ∃ t : Tree, t.IsDocument (Symbol.ofText text) ∧ s.DescribedBy t := by
  unfold Spec.ofText Spec.ofDocument
  rw [Document.readAs_eq_ok_iff, Spec.read_eq_ok_iff]
  constructor
  · rintro ⟨hending, hdescribed⟩
    refine ⟨_, Document.read_eq_clean_iff.mp ?_, hdescribed⟩
    rw [← hending]
  · rintro ⟨t, hdocument, hdescribed⟩
    rw [Document.read_eq_clean_iff.mpr hdocument]
    exact ⟨rfl, hdescribed⟩

/-- The members stand in any order, and what is under an unknown key only has to be grammatical: no
number is that large. -/
example :
    Spec.ofText "\x7b\"component_name\": \"View\", \"size\": 1e999, \"name\": \"Views\"\x7d" =
      .ok (Spec.mk "Views" "View" [] [] Handles.standard false true) := by
  decide +kernel

end Carryover
