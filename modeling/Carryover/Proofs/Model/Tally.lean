/-
# How often each defect is reported

`Spec.check` reports one defect for each time that it meets one.  Here the defects of a spec are
counted by looking at its declarations, without walking through them: `Method.occurrences` says how
often a defect occurs in a method on its own, and `Spec.occurrences` adds up what the spec's own
names, all of its methods and the synthesised names come to.  `count_reported` is that the check
reports every defect exactly as often as it occurs.

Most defects occur with every declaration of a name (`countP_earlier`), and repetitions with every
declaration but the first (`countP_repeated`).  The synthesised names are compared as pairs of a name
and its producer: of all producers of one name, the first is reported with each later one
(`filter_nameDefects`).
-/
import Mathlib.Algebra.GroupWithZero.Nat
import Mathlib.Data.List.Count
import Carryover.Proofs.Artifact.Names

namespace Carryover

variable {α : Type}

/-! ## 1. What is counted -/

/-- What the check reports; nothing for a spec that it accepts. -/
def Spec.reported (s : Spec) : List Defect :=
  match s.check with
  | .ok () => []
  | .error r => r.defects

/-- May the name be used so? -/
def NameUse.allows : NameUse → String → Bool
  | .specPath => isPath
  | _ => isIdentifier

/-- The names that a method declares for a use. -/
def Method.namesFor (m : Method) : NameUse → List String
  | .method => [m.name]
  | .param => m.params.map (·.name)
  | .typeParam => m.typeParams.map (·.name)
  | _ => []

/-- The names that a spec declares for a use, its methods apart. -/
def Spec.namesFor (s : Spec) : NameUse → List String
  | .specPath => [s.path]
  | .component => [s.component]
  | .field => s.fields.map (·.name)
  | _ => []

/-- How often a defect occurs in a method on its own. -/
def Method.occurrences (s : Spec) (m : Method) : Defect → Nat
  | .invalidName use name =>
    if use.allows name = false then (m.namesFor use).count name else 0
  | .reservedName owner name =>
    if owner = .method m.name ∧ name ∈ reservedNames then (m.params.map (·.name)).count name else 0
  | .duplicateParam method name =>
    if m.name = method then
      ((m.params.map (·.name)).count name - 1) + ((m.typeParams.map (·.name)).count name - 1)
    else 0
  | .unknownSlot method name =>
    if m.name = method ∧ name ∉ s.fields.map (·.name) then (m.slots.map (·.name)).count name else 0
  | .slotMismatch method name declared found =>
    if m.name = method ∧ (s.field? name).map (·.type) = some declared ∧ declared ≠ found then
      (m.slots.map fun p => (p.name, p.type)).count (name, found)
    else 0
  | .memberCollision method captured stored =>
    if m.name = method ∧ stored = "m_" ++ captured ∧ stored ∈ m.slots.map (·.name) then
      (m.captured.map (·.name)).count captured
    else 0
  | .unusedTypeParam method name =>
    if m.name = method ∧ ∀ c ∈ m.captured, Text.mentions c.type name = false then
      (m.typeParams.map (·.name)).count name
    else 0
  | _ => 0

/-- The space in which a producer's name must differ from others. -/
def Producer.space : Producer → NameSpace
  | .component | .container | .command _ => .types
  | .entryPoint .. | .constructor _ | .lazyUpdater _ => .functions

namespace Spec

/-- The name that comes from a producer. -/
def nameFrom (s : Spec) : Producer → String
  | .component => s.component
  | .container => s.containerName
  | .entryPoint m timing => entryPointName m timing
  | .constructor m => constructorName m
  | .command m => commandTypeName m
  | .lazyUpdater f => lazyUpdaterName f

/-- All producers of names, in the order of the spec; methods of one name count once, and so do lazy
fields.  Without state there are none. -/
def producers (s : Spec) : List Producer :=
  if s.hasState then
    [.component, .container] ++
    ((s.methods.map (·.name)).eraseDups.flatMap fun m =>
      [.entryPoint m .sync, .entryPoint m .async, .constructor m, .command m]) ++
    (s.lazyFields.map (·.name)).eraseDups.map .lazyUpdater
  else []

/-- Those among some producers from which a name of a space comes. -/
def sharing (s : Spec) (space : NameSpace) (name : String) (qs : List Producer) : List Producer :=
  qs.filter fun q => q.space = space ∧ s.nameFrom q = name

/-- The producers of a name in a space. -/
def producersOf (s : Spec) (space : NameSpace) (name : String) : List Producer :=
  s.sharing space name s.producers

/-- How often a defect occurs in a spec, its methods on their own apart. -/
def ownOccurrences (s : Spec) : Defect → Nat
  | .invalidName use name =>
    if use.allows name = false then (s.namesFor use).count name else 0
  | .reservedName owner name =>
    if owner = .fields ∧ name ∈ reservedNames then (s.fields.map (·.name)).count name else 0
  | .duplicateField name => (s.fields.map (·.name)).count name - 1
  | .duplicateMethod name => (s.methods.map (·.name)).count name - 1
  | .nameCollision name first second =>
    if (s.producersOf first.space name).head? = some first then
      (s.producersOf first.space name).tail.count second
    else 0
  | _ => 0

/-- **How often a defect occurs in a spec.** -/
def occurrences (s : Spec) (d : Defect) : Nat :=
  s.ownOccurrences d + (s.methods.map (·.occurrences s d)).sum

end Spec

/-- Is the defect that the name has more than one producer in the space? -/
def Defect.isCollisionIn (space : NameSpace) (name : String) : Defect → Bool
  | .nameCollision n first _ => n = name ∧ first.space = space
  | _ => false

/-- The check reports all defects. -/
theorem Spec.reported_eq_defects (s : Spec) : s.reported = s.defects := by
  unfold reported check
  cases s.defects <;> rfl

/-! ## 2. Counting reports -/

theorem count_reportIf (reason : Bool) (report d : Defect) :
    (reportIf reason report).count d = if reason && decide (report = d) then 1 else 0 := by
  cases reason <;> simp [reportIf, List.count_cons]

/-- A report occurs with every declaration that has the reason for it. -/
theorem count_reports {reason : α → Bool} {report : α → Defect} (xs : List α) (d : Defect) :
    (xs.flatMap fun x => reportIf (reason x) (report x)).count d
      = xs.countP fun x => reason x && decide (report x = d) := by
  induction xs with
  | nil => rfl
  | cons x xs ih =>
    rw [List.flatMap_cons, List.count_append, ih, List.countP_cons, count_reportIf, Nat.add_comm]

/-- Reports of different kinds are counted apart. -/
theorem count_flatMap_append {f g : α → List Defect} (xs : List α) (d : Defect) :
    (xs.flatMap fun x => f x ++ g x).count d = (xs.flatMap f).count d + (xs.flatMap g).count d := by
  rw [← (List.flatMap_append_perm xs f g).count_eq, List.count_append]

section Keys

variable {κ : Type} [BEq κ] [LawfulBEq κ] {key : α → κ} {k : κ} {c : Prop} [Decidable c]

/-- Counted is every declaration of a name, or none. -/
theorem countP_eq_ite {p : α → Bool} {xs : List α} (h : ∀ x ∈ xs, p x = true ↔ c ∧ key x = k) :
    xs.countP p = if c then (xs.map key).count k else 0 := by
  rw [List.count_eq_countP, List.countP_map]
  split
  · next hc =>
    refine List.countP_congr fun x hx => ?_
    simp [h x hx, hc]
  · next hc =>
    rw [List.countP_eq_zero]
    exact fun x hx hp => hc ((h x hx).mp hp).1

/-- So it is if each declaration is met with the ones before it. -/
theorem countP_earlier {p : List α × α → Bool} {xs : List α}
    (h : ∀ e ∈ withEarlier xs, p e = true ↔ c ∧ key e.2 = k) :
    (withEarlier xs).countP p = if c then (xs.map key).count k else 0 := by
  conv_rhs => rw [← map_snd_withEarlier xs, List.map_map]
  exact countP_eq_ite h

end Keys

/-- **A repetition is every declaration of a name but the first.** -/
theorem countP_repeated (key : α → String) (name : String) {c : Prop} [Decidable c]
    {p : List α × α → Bool} (xs : List α)
    (h : ∀ e, p e = true ↔ c ∧ e.1.any (key · == key e.2) = true ∧ key e.2 = name) :
    (withEarlier xs).countP p = if c then (xs.map key).count name - 1 else 0 := by
  by_cases hc : c
  · rw [if_pos hc]
    -- From the right, because the last element is compared with all others.
    induction xs using List.reverseRecOn with
    | nil => rfl
    | append_singleton xs x ih =>
      have hlast : p (xs, x) = true ↔ xs.any (key · == name) = true ∧ key x = name := by
        rw [h, and_iff_right hc]
        exact and_congr_left fun hname => by rw [hname]
      rw [withEarlier_concat, List.countP_append, ih, List.map_append, List.count_append,
        List.countP_singleton, List.map_singleton, List.count_singleton]
      by_cases hname : key x = name
      · have hany : xs.any (key · == name) = true ↔ 0 < (xs.map key).count name := by
          simp [List.count_pos_iff]
        simp only [hlast, hname, hany, and_true, beq_self_eq_true, if_true]
        split <;> omega
      · simp [hlast, hname]
  · rw [if_neg hc, List.countP_eq_zero]
    exact fun e _ hp => hc ((h e).mp hp).1

/-! ## 3. Methods -/

/-- Only slots are looked up among the fields. -/
theorem Method.flatMap_slotDefects (s : Spec) (method : String) (m : Method) :
    m.params.flatMap (·.slotDefects s method) = m.slots.flatMap fun p =>
      reportIf (s.field? p.name).isNone (.unknownSlot method p.name) ++
      reportIf ((s.field? p.name).any (·.type != p.type))
        (.slotMismatch method p.name (((s.field? p.name).map (·.type)).getD "") p.type) := by
  unfold Method.slots
  induction m.params with
  | nil => rfl
  | cons p ps ih =>
    rw [List.flatMap_cons, ih, List.filter_cons]
    unfold Param.slotDefects
    cases p.role with
    | captured => rfl
    | slot =>
      refine (congrArg (· ++ _) ?_).trans List.flatMap_cons.symm
      cases s.field? p.name <;> rfl

/-- **A method on its own reports each defect as often as it occurs there.** -/
theorem Method.count_defects (s : Spec) (m : Method) (d : Defect) :
    (m.defects s).count d = m.occurrences s d := by
  unfold Method.defects Param.defects TypeParam.defects Method.memberDefects
  simp only [count_flatMap_append, flatMap_snd_withEarlier (Param.slotDefects s m.name),
    flatMap_slotDefects, List.count_append, count_reports, count_reportIf]
  -- Of the eleven kinds of reports only those of the same kind as `d` are left.
  cases d <;> simp only [occurrences, Defect.invalidName.injEq, Defect.reservedName.injEq,
    Defect.duplicateParam.injEq, Defect.unknownSlot.injEq, Defect.slotMismatch.injEq,
    Defect.memberCollision.injEq, Defect.unusedTypeParam.injEq, reduceCtorEq, decide_false,
    Bool.and_false, Bool.false_eq_true, if_false, List.countP_false, Function.const_apply,
    Nat.add_zero, Nat.zero_add]
  case invalidName use name =>
    cases use <;> simp only [namesFor, NameUse.allows, reduceCtorEq, false_and, true_and,
      decide_false, Bool.and_false, Bool.false_eq_true, if_false, List.countP_false,
      Function.const_apply, Nat.add_zero, Nat.zero_add, List.count_nil]
    case method => grind
    case param => exact countP_earlier fun e _ => by grind
    case typeParam => exact countP_earlier fun e _ => by grind
    all_goals exact (ite_self 0).symm
  case reservedName owner name => exact countP_earlier fun e _ => by grind
  case duplicateParam method name =>
    rw [countP_repeated (c := m.name = method) Param.name name m.params fun e => by grind,
      countP_repeated (c := m.name = method) TypeParam.name name m.typeParams fun e => by grind]
    split <;> rfl
  case unknownSlot method name =>
    refine countP_eq_ite fun p _ => ?_
    have hnone : (s.field? p.name).isNone = true ↔ p.name ∉ s.fields.map (·.name) := by
      simp [Spec.field?]
    grind
  case slotMismatch method name declared found =>
    refine countP_eq_ite fun p _ => ?_
    cases hfield : s.field? p.name <;> grind
  case memberCollision method captured stored =>
    refine countP_eq_ite fun p _ => ?_
    have hslot : m.slots.any (·.name == memberName p.name) = true ↔
        "m_" ++ p.name ∈ m.slots.map (·.name) := by
      simp [memberName]
    grind [memberName]
  case unusedTypeParam method name =>
    refine countP_earlier fun e _ => ?_
    have hunused : m.usesType e.2.name = false ↔
        ∀ c ∈ m.captured, Text.mentions c.type e.2.name = false := by
      simp [Method.usesType]
    grind

/-! ## 4. Synthesised names -/

namespace Spec

variable {s : Spec}

/-- What the check compares: a producer with its space and its name. -/
def product (s : Spec) (q : Producer) : Product :=
  ⟨q.space, s.nameFrom q, q⟩

/-- The check goes through the producers. -/
theorem products_eq_map (h : s.hasState = true) : s.products = s.producers.map s.product := by
  have hmethods : (firsts (·.name) s.methods).flatMap Method.products
      = ((s.methods.map (·.name)).eraseDups.flatMap fun m => [.entryPoint m .sync,
          .entryPoint m .async, .constructor m, .command m]).map s.product := by
    rw [← map_firsts, List.flatMap_map, List.map_flatMap]
    rfl
  have hfields : (firsts (·.name) s.lazyFields).map Field.product
      = ((s.lazyFields.map (·.name)).eraseDups.map .lazyUpdater).map s.product := by
    rw [← map_firsts, List.map_map, List.map_map]
    rfl
  unfold products producers
  rw [if_pos h, hmethods, hfields, List.map_append, List.map_append]
  rfl

theorem mem_sharing_iff {space : NameSpace} {name : String} {qs : List Producer} {q : Producer} :
    q ∈ s.sharing space name qs ↔ q ∈ qs ∧ q.space = space ∧ s.nameFrom q = name := by
  unfold sharing
  rw [List.mem_filter, decide_eq_true_eq]

/-- A producer is reported with the first before it that shares its name. -/
theorem defects_product (before : List Producer) (q : Producer) :
    (s.product q).defects (before.map s.product)
      = (s.sharing q.space (s.nameFrom q) before).head?.toList.map fun first =>
          .nameCollision (s.nameFrom q) first q := by
  have hfind : (before.map s.product).find? (s.product q).meets
      = (s.sharing q.space (s.nameFrom q) before).head?.map s.product := by
    unfold sharing
    rw [List.find?_map, List.head?_filter]
    refine congrArg _ (congrArg (before.find? ·) (funext fun r => ?_))
    rw [Bool.eq_iff_iff]
    simp only [Function.comp_apply, Product.meets, product, Bool.and_eq_true, beq_iff_eq,
      decide_eq_true_eq]
    exact and_congr eq_comm eq_comm
  unfold Product.defects
  rw [hfind]
  cases (s.sharing q.space (s.nameFrom q) before).head? <;> rfl

end Spec

/-- The meetings of producers that share a name: the first with each later one. -/
def meetings (name : String) : List Producer → List Defect
  | [] => []
  | first :: later => later.map (.nameCollision name first)

theorem meetings_concat (name : String) (qs : List Producer) (q : Producer) :
    meetings name (qs ++ [q])
      = meetings name qs ++ qs.head?.toList.map fun first => .nameCollision name first q := by
  cases qs with
  | nil => rfl
  | cons first later =>
    exact List.map_append

/-- **Of all producers that share a name, the first is reported with each later one.** -/
theorem Spec.filter_collisions (s : Spec) (space : NameSpace) (name : String) (qs : List Producer) :
    ((withEarlier (qs.map s.product)).flatMap fun e => e.2.defects e.1).filter
        (·.isCollisionIn space name)
      = meetings name (s.sharing space name qs) := by
  induction qs using List.reverseRecOn with
  | nil => rfl
  | append_singleton qs q ih =>
    have hshared : s.sharing space name (qs ++ [q])
        = s.sharing space name qs ++ s.sharing space name [q] := List.filter_append ..
    have hreported : ∀ d ∈ (s.product q).defects (qs.map s.product),
        d.isCollisionIn space name = true ↔ q.space = space ∧ s.nameFrom q = name := by
      rw [defects_product]
      intro d hd
      obtain ⟨first, hfirst, rfl⟩ := List.mem_map.mp hd
      have hspace : first.space = q.space :=
        (mem_sharing_iff.mp (List.mem_of_head? (Option.mem_toList.mp hfirst))).2.1
      simp [Defect.isCollisionIn, hspace, and_comm]
    rw [List.map_append, List.map_singleton, withEarlier_concat, List.flatMap_append,
      List.filter_append, ih, List.flatMap_singleton, hshared]
    by_cases hq : q.space = space ∧ s.nameFrom q = name
    · have hone : s.sharing space name [q] = [q] := List.filter_eq_self.mpr (by simpa using hq)
      rw [hone, meetings_concat, List.filter_eq_self.mpr fun d hd => (hreported d hd).mpr hq,
        defects_product, hq.1, hq.2]
    · have hnone : s.sharing space name [q] = [] := List.filter_eq_nil_iff.mpr (by simpa using hq)
      rw [hnone, List.append_nil, List.filter_eq_nil_iff.mpr fun d hd h => hq ((hreported d hd).mp h),
        List.append_nil]

/-- So it is for the synthesised names of a spec. -/
theorem Spec.filter_nameDefects (s : Spec) (space : NameSpace) (name : String) :
    s.nameDefects.filter (·.isCollisionIn space name) = meetings name (s.producersOf space name) := by
  unfold nameDefects
  cases hstate : s.hasState with
  | false =>
    have hnone : s.producersOf space name = [] := by
      unfold producersOf producers
      rw [hstate]
      rfl
    rw [hnone]
    rfl
  | true =>
    rw [products_eq_map hstate]
    exact s.filter_collisions space name s.producers

/-- A defect of the synthesised names occurs as often as its two producers meet. -/
theorem count_meetings (name : String) (first second : Producer) (qs : List Producer) :
    (meetings name qs).count (.nameCollision name first second)
      = if qs.head? = some first then qs.tail.count second else 0 := by
  cases qs with
  | nil => rfl
  | cons q later =>
    unfold meetings
    by_cases hfirst : q = first
    · subst hfirst
      have hinjective : Function.Injective (Defect.nameCollision name q) := fun a b h => by
        injection h
      rw [List.count_map_of_injective _ _ hinjective, List.head?_cons, if_pos rfl, List.tail_cons]
    · rw [List.head?_cons, if_neg fun h => hfirst (Option.some.inj h), List.count_eq_zero]
      simp [hfirst]

/-- There is a meeting with every producer but the first. -/
theorem length_meetings (name : String) (qs : List Producer) :
    (meetings name qs).length = qs.length - 1 := by
  cases qs with
  | nil => rfl
  | cons first later => exact List.length_map _

/-! ## 5. Specs -/

/-- The synthesised names have as many meetings as there are among producers, and no other defects. -/
theorem Spec.count_nameDefects (s : Spec) (d : Defect) :
    s.nameDefects.count d = if d.isNameCollision then s.ownOccurrences d else 0 := by
  cases d
  case nameCollision name first second =>
    have hcollision :
        (Defect.nameCollision name first second).isCollisionIn first.space name = true := by
      simp [Defect.isCollisionIn]
    rw [← List.count_filter hcollision, filter_nameDefects, count_meetings]
    rfl
  all_goals
    exact List.count_eq_zero.mpr fun h => absurd (isNameCollision_of_mem_nameDefects h) nofun

/-- **A spec has each defect as often as it occurs there.** -/
theorem Spec.count_defects (s : Spec) (d : Defect) : s.defects.count d = s.occurrences d := by
  have hmethods : (s.methods.flatMap (·.defects s)).count d
      = (s.methods.map (·.occurrences s d)).sum := by
    rw [List.count_flatMap]
    exact congrArg List.sum (List.map_congr_left fun m _ => m.count_defects s d)
  unfold occurrences defects Field.defects Method.repeatDefects
  simp only [List.count_append, hmethods, count_flatMap_append, count_reports, count_reportIf,
    count_nameDefects]
  generalize (s.methods.map (·.occurrences s d)).sum = inMethods
  cases d <;> simp only [ownOccurrences, Defect.isNameCollision, Defect.invalidName.injEq,
    Defect.reservedName.injEq, Defect.duplicateField.injEq, Defect.duplicateMethod.injEq,
    reduceCtorEq, decide_false, Bool.and_false, Bool.false_eq_true, if_false, if_true,
    List.countP_false, Function.const_apply, Nat.add_zero, Nat.zero_add]
  case invalidName use name =>
    refine congrArg (· + inMethods) ?_
    cases use <;> simp only [namesFor, NameUse.allows, reduceCtorEq, false_and, true_and,
      decide_false, Bool.and_false, Bool.false_eq_true, if_false, List.countP_false,
      Function.const_apply, Nat.add_zero, Nat.zero_add, List.count_nil]
    case specPath => grind
    case component => grind
    case field => exact countP_earlier fun e _ => by grind
    all_goals exact (ite_self 0).symm
  case reservedName owner name =>
    refine congrArg (· + inMethods) (countP_earlier fun e _ => ?_)
    grind
  case duplicateField name =>
    rw [countP_repeated (c := True) Field.name name s.fields fun e => by grind, if_pos trivial]
  case duplicateMethod name =>
    rw [countP_repeated (c := True) Method.name name s.methods fun e => by grind,
      if_pos trivial, Nat.add_comm]
  case nameCollision name first second => exact Nat.add_comm ..

/-- All meetings of names are among the synthesised ones. -/
theorem Spec.countP_collisions (s : Spec) (space : NameSpace) (name : String) :
    s.defects.countP (·.isCollisionIn space name) = (s.producersOf space name).length - 1 := by
  have hcount : ∀ d : Defect, d.isCollisionIn space name = true →
      s.defects.count d = s.nameDefects.count d := by
    intro d hd
    cases d
    case nameCollision n first second =>
      have hmethods : (s.methods.map (·.occurrences s (.nameCollision n first second))).sum = 0 := by
        simp [Method.occurrences]
      rw [count_defects, count_nameDefects, occurrences, hmethods]
      rfl
    all_goals exact absurd hd nofun
  have hperm : (s.defects.filter (·.isCollisionIn space name)).Perm
      (s.nameDefects.filter (·.isCollisionIn space name)) := by
    refine List.perm_iff_count.mpr fun d => ?_
    by_cases hd : d.isCollisionIn space name = true
    · rw [List.count_filter hd, List.count_filter hd, hcount d hd]
    · have hnone : ∀ ds : List Defect, (ds.filter (·.isCollisionIn space name)).count d = 0 :=
        fun ds => List.count_eq_zero.mpr fun hmem => hd (List.of_mem_filter hmem)
      rw [hnone, hnone]
  rw [List.countP_eq_length_filter, hperm.length_eq, filter_nameDefects, length_meetings]

/-- **The check reports every defect exactly as often as it occurs**, and of a name that has several
producers in one space one meeting less than there are producers. -/
theorem count_reported (s : Spec) :
    (∀ d, s.reported.count d = s.occurrences d) ∧
    ∀ space name, s.reported.countP (·.isCollisionIn space name)
      = (s.producersOf space name).length - 1 := by
  rw [s.reported_eq_defects]
  exact ⟨s.count_defects, s.countP_collisions⟩

/-- A name is declared three times as a parameter and twice as a type parameter. -/
example : ({ Spec.ofComponent "Counter" with
    methods := [⟨"set", [⟨"T", "Copy"⟩, ⟨"T", "Clone"⟩],
      [⟨.captured, "T", "T"⟩, ⟨.captured, "T", "T"⟩, ⟨.captured, "T", "T"⟩]⟩] } : Spec).reported.count
    (.duplicateParam "set" "T") = (3 - 1) + (2 - 1) := by
  decide

end Carryover
