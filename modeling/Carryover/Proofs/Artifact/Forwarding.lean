/-
# The way of an argument

Lists of parameters that agree do not say by themselves that values arrive.  `Spec.receive?` is what a
method is called with, if a value is passed to an entry point for each captured parameter: every
function on the way binds what it is called with to its parameters, by position, and looks up by name
what it hands on.

The invariant is that a value stands under the name for which it was passed (`Carries`).  Every
function keeps it (`Carries.handOn`), whatever the names are, so no value arrives in the place of
another one (`Spec.receives_of_receive?`).  Where the names do not meet, neither each other nor those
that the functions bind themselves, every lookup succeeds and all values arrive
(`Spec.exists_receive?`).

`arguments_reach_method` puts this together with the lists in the sources.
-/
import Mathlib.Data.List.Forall2
import Mathlib.Data.List.Nodup
import Carryover.Proofs.Artifact.Captured

namespace Carryover

variable {α : Type}

/-! ## 1. Functions that hand on arguments -/

/-- What a name stands for in a function: a value that the caller passed, or something of the
synthesis' own. -/
inductive Held (α : Type) where
  | value (v : α)
  | own
  deriving DecidableEq, Repr

/-- What a function hands on.  It is called with as many arguments as it has parameters, all of
different names.  Then it binds `own` itself, and looks up `handed`. -/
def handOn? (params own handed : List String) (args : List (Held α)) : Option (List (Held α)) :=
  if params.Nodup ∧ params.length = args.length then
    handed.mapM fun name => (own.map (·, Held.own) ++ params.zip args).lookup name
  else none

/-- What an entry point hands to the component's constructor of the command, if these are passed to it
behind the context.  By then it has named the component. -/
def EntryPoint.handOn? (e : EntryPoint) (args : List (Held α)) : Option (List (Held α)) :=
  Carryover.handOn? ("c" :: e.formals.map (·.name)) ["component"] e.actuals (.own :: args)

/-- What the component's constructor of a command hands to the command's own.  The instance of the
spec is the synthesis' own. -/
def CommandMaker.handOn? (k : CommandMaker) (args : List (Held α)) : Option (List (Held α)) :=
  Carryover.handOn? ("self" :: k.formals.map (·.name)) ["::std::sync::Arc::clone(&self.spec)"]
    k.actuals (.own :: args)

/-- What a command has stored, field by field, once it is made of these.  All fields have different
names. -/
def CommandType.store? (c : CommandType) (args : List (Held α)) :
    Option (List (String × Held α)) := do
  let stored ← handOn? (c.fields.map (·.param)) [] (c.fields.map (·.param)) args
  if (c.fields.map (·.member)).Nodup then some ((c.fields.map (·.member)).zip stored) else none

/-- What the method receives for one of its parameters. -/
inductive Received (α : Type) where
  | value (v : α)
  | box (name : String)
  deriving DecidableEq, Repr

/-- What an argument of the call stands for: a value that is stored in the command, or a box.  The
command is known as `this`, unless a box is. -/
def CommandType.argument? (c : CommandType) (stored : List (String × Held α)) :
    Argument → Option (Received α)
  | .stored member =>
    match stored.lookup member with
    | some (.value v) => if "this" ∈ c.slots.map (·.name) then none else some (.value v)
    | _ => none
  | .box name => if name ∈ c.slots.map (·.name) then some (.box name) else none

/-- **What a method of the spec is called with**, if these values are passed to an entry point. -/
def Spec.receive? (s : Spec) (m : Method) (timing : Timing) (values : List α) :
    Option (List (Received α)) := do
  let args ← (EntryPoint.ofMethod s m timing).handOn? (values.map .value)
  let args ← (CommandMaker.ofMethod s m).handOn? args
  let stored ← (CommandType.ofMethod s m).store? args
  (CommandType.ofMethod s m).arguments.mapM ((CommandType.ofMethod s m).argument? stored)

/-- The values that are passed to an entry point of a method, under the names of its captured
parameters. -/
def Method.passed (m : Method) (values : List α) : List (String × α) :=
  (m.captured.map (·.name)).zip values

/-- A parameter of a method and what the method receives for it: the value that was passed for a
captured one, and its box for a slot. -/
def Receives (passed : List (String × α)) (p : Param) : Received α → Prop
  | .value v => p.role = .captured ∧ (p.name, v) ∈ passed
  | .box name => p.role = .slot ∧ name = p.name

/-! ## 2. Values stand under the names for which they were passed -/

/-- Every value stands under a name for which it was passed. -/
def Carries (passed : List (String × α)) (names : List String) (held : List (Held α)) : Prop :=
  List.Forall₂ (fun name h => ∀ v, h = .value v → (name, v) ∈ passed) names held

variable {passed : List (String × α)} {params own handed : List String}
  {args out : List (Held α)}

/-- What is computed for each element of a list. -/
theorem mapM_eq_some_iff {β γ : Type} {f : β → Option γ} {xs : List β} {ys : List γ} :
    xs.mapM f = some ys ↔ List.Forall₂ (fun x y => f x = some y) xs ys := by
  induction xs generalizing ys with
  | nil => cases ys <;> simp
  | cons x xs ih =>
    cases ys with
    | nil => simp [List.mapM_cons, Option.bind_eq_some_iff]
    | cons y ys => simp [List.mapM_cons, List.forall₂_cons, ih, Option.bind_eq_some_iff]

theorem exists_mapM {β γ : Type} {f : β → Option γ} {xs : List β}
    (h : ∀ x ∈ xs, ∃ y, f x = some y) : ∃ ys, xs.mapM f = some ys := by
  simp only [mapM_eq_some_iff]
  induction xs with
  | nil => exact ⟨[], .nil⟩
  | cons x xs ih =>
    obtain ⟨⟨y, hy⟩, hxs⟩ := List.forall_mem_cons.mp h
    obtain ⟨ys, hys⟩ := ih hxs
    exact ⟨y :: ys, .cons hy hys⟩

theorem mem_of_lookup {β : Type} {es : List (String × β)} {name : String} {b : β}
    (h : es.lookup name = some b) : (name, b) ∈ es := by
  obtain ⟨before, after, rfl, -⟩ := List.lookup_eq_some_iff.mp h
  exact List.mem_append_right _ List.mem_cons_self

theorem handOn?_eq_some_iff : handOn? params own handed args = some out ↔
    params.Nodup ∧ params.length = args.length ∧
      List.Forall₂ (fun name h => (own.map (·, Held.own) ++ params.zip args).lookup name = some h)
        handed out := by
  unfold handOn?
  rw [← mapM_eq_some_iff, ← and_assoc]
  split
  · next h => simp [h]
  · next h => simp [h]

/-- **A function keeps values under their names.** -/
theorem Carries.handOn (hargs : Carries passed params args)
    (h : handOn? params own handed args = some out) : Carries passed handed out := by
  obtain ⟨-, -, hlooked⟩ := handOn?_eq_some_iff.mp h
  refine hlooked.imp fun name held hheld v hv => ?_
  subst hv
  rcases List.mem_append.mp (mem_of_lookup hheld) with hown | hmem
  · simp at hown
  · exact List.forall₂_zip hargs hmem v rfl

/-- What is the synthesis' own is no value. -/
theorem Carries.cons_own {name : String} {names : List String}
    (h : Carries passed names args) :
    Carries passed (name :: names) (.own :: args) :=
  .cons (fun _ hv => absurd hv nofun) h

/-- Values stand under names to begin with. -/
theorem carries_zip {names : List String} {values : List α} (h : names.length = values.length) :
    Carries (names.zip values) names (values.map .value) := by
  unfold Carries
  refine List.forall₂_map_right_iff.mpr (List.forall₂_iff_zip.mpr ⟨h, fun hmem v hv => ?_⟩)
  rwa [← Held.value.inj hv]

/-- Parameters are stored under different names. -/
theorem memberName_injective : Function.Injective memberName := fun a b h => by
  simpa [memberName, ← String.toList_inj] using h

/-- The instance is not stored under the name of a parameter. -/
theorem specField_ne_memberName (name : String) : "spec" ≠ memberName name := by
  simp [memberName, ← String.toList_inj]

namespace Spec

variable {s : Spec} {m : Method} {timing : Timing} {values : List α}
  {stored : List (String × Held α)}

/-- The parameters of the command's own constructor. -/
theorem map_param_fields :
    (CommandType.ofMethod s m).fields.map (·.param) = s.before "spec" ++ m.captured.map (·.name) :=
  s.map_fields m _

/-- The names under which a command stores. -/
theorem map_member_fields : (CommandType.ofMethod s m).fields.map (·.member)
    = s.before "spec" ++ (m.captured.map (·.name)).map memberName := by
  rw [s.map_fields m, List.map_map]
  rfl

theorem handOn?_entryPoint : (EntryPoint.ofMethod s m timing).handOn? args
    = handOn? ("c" :: m.captured.map (·.name)) ["component"] (m.captured.map (·.name))
        (.own :: args) := by
  show handOn? (_ :: (m.captured.map (·.binding)).map (·.name)) _ _ _ = _
  rw [List.map_map]
  rfl

theorem handOn?_maker : (CommandMaker.ofMethod s m).handOn? args
    = handOn? ("self" :: m.captured.map (·.name)) ["::std::sync::Arc::clone(&self.spec)"]
        (s.before "::std::sync::Arc::clone(&self.spec)" ++ m.captured.map (·.name))
        (.own :: args) := by
  show handOn? (_ :: (m.captured.map (·.binding)).map (·.name)) _ _ _ = _
  rw [List.map_map]
  rfl

/-- An entry point is called with one value for each captured parameter, and these have different
names.  It hands on what it is called with. -/
theorem carries_entryPoint
    (h : (EntryPoint.ofMethod s m timing).handOn? (values.map .value) = some args) :
    (m.captured.map (·.name)).Nodup ∧ m.captured.length = values.length ∧
      Carries (m.passed values) (m.captured.map (·.name)) args := by
  rw [handOn?_entryPoint] at h
  obtain ⟨hdiffer, hlength, -⟩ := handOn?_eq_some_iff.mp h
  have hvalues : m.captured.length = values.length := by simpa using hlength
  refine ⟨(List.nodup_cons.mp hdiffer).2, hvalues, ?_⟩
  exact (carries_zip (by rwa [List.length_map])).cons_own.handOn h

/-- The component's constructor hands the captured parameters to those of the command's own.  The
instance comes before them on both sides. -/
theorem carries_maker (hargs : Carries passed (m.captured.map (·.name)) args)
    (h : (CommandMaker.ofMethod s m).handOn? args = some out) :
    Carries passed ((CommandType.ofMethod s m).fields.map (·.param)) out := by
  rw [handOn?_maker] at h
  have hhanded := hargs.cons_own.handOn h
  rw [map_param_fields]
  unfold before at h hhanded ⊢
  cases hinjected : s.isInjected with
  | false => simpa [hinjected] using hhanded
  | true =>
    rw [hinjected, if_pos rfl] at h hhanded
    obtain ⟨-, -, hlooked⟩ := handOn?_eq_some_iff.mp h
    obtain ⟨first, rest, hfirst, -, rfl⟩ := List.forall₂_cons_left_iff.mp hlooked
    obtain rfl : Held.own = first := by simpa using hfirst
    exact Carries.cons_own (List.forall₂_cons.mp hhanded).2

/-- What is stored is what was passed for the parameter from which the field is set. -/
theorem mem_of_store {member : String} {v : α}
    (hargs : Carries passed ((CommandType.ofMethod s m).fields.map (·.param)) args)
    (h : (CommandType.ofMethod s m).store? args = some stored)
    (hmem : (member, .value v) ∈ stored) :
    ∃ f ∈ (CommandType.ofMethod s m).fields, f.member = member ∧ (f.param, v) ∈ passed := by
  obtain ⟨held, hheld, hstored⟩ := Option.bind_eq_some_iff.mp h
  have hcarries := hargs.handOn hheld
  split at hstored
  · obtain rfl := Option.some.inj hstored
    rw [List.zip_map_left] at hmem
    obtain ⟨⟨f, h⟩, hzip, hf⟩ := List.mem_map.mp hmem
    obtain ⟨rfl, rfl⟩ := Prod.mk.inj hf
    have hpassed := List.forall₂_map_left_iff.mp hcarries
    exact ⟨f, (List.of_mem_zip hzip).1, rfl, List.forall₂_zip hpassed hzip v rfl⟩
  · exact absurd hstored nofun

/-- **A field of a command is set from the parameter for which it is named.** -/
theorem param_of_member {f : StorageField} {name : String}
    (hf : f ∈ (CommandType.ofMethod s m).fields) (h : f.member = memberName name) :
    f.param = name := by
  rcases List.mem_append.mp hf with hf | hf
  · unfold CommandType.specFields at hf
    split at hf
    · obtain rfl := List.mem_singleton.mp hf
      exact absurd h (specField_ne_memberName name)
    · exact absurd hf List.not_mem_nil
  · obtain ⟨p, -, rfl⟩ := List.mem_map.mp hf
    exact memberName_injective h

/-- An argument of the call is what the method should receive. -/
theorem receives_of_argument? {p : Param} {r : Received α}
    (hstored : ∀ member v, (member, .value v) ∈ stored →
      ∃ f ∈ (CommandType.ofMethod s m).fields, f.member = member ∧ (f.param, v) ∈ passed)
    (h : (CommandType.ofMethod s m).argument? stored (.ofParam p) = some r) :
    Receives passed p r := by
  obtain ⟨role, name, type⟩ := p
  cases role with
  | captured =>
    simp only [Argument.ofParam, CommandType.argument?] at h
    split at h
    · next v hlookup =>
      obtain ⟨f, hf, hmember, hpassed⟩ := hstored _ _ (mem_of_lookup hlookup)
      obtain rfl := param_of_member hf hmember
      split at h
      · exact absurd h nofun
      · obtain rfl := Option.some.inj h
        exact ⟨rfl, hpassed⟩
    · exact absurd h nofun
  | slot =>
    simp only [Argument.ofParam, CommandType.argument?] at h
    split at h
    · obtain rfl := Option.some.inj h
      exact ⟨rfl, rfl⟩
    · exact absurd h nofun

/-- **No value arrives in the place of another.**  Whatever the names of a method's parameters are, if
it is called it receives, for each parameter in order, the value that was passed for it, or its box. -/
theorem receives_of_receive? {received : List (Received α)}
    (h : s.receive? m timing values = some received) :
    (m.captured.map (·.name)).Nodup ∧ m.captured.length = values.length ∧
      List.Forall₂ (Receives (m.passed values)) m.params received := by
  obtain ⟨first, hentry, h⟩ := Option.bind_eq_some_iff.mp h
  obtain ⟨second, hmaker, h⟩ := Option.bind_eq_some_iff.mp h
  obtain ⟨stored, hstore, h⟩ := Option.bind_eq_some_iff.mp h
  obtain ⟨hdiffer, hlength, hfirst⟩ := carries_entryPoint hentry
  have hsecond := carries_maker hfirst hmaker
  have harguments : List.Forall₂
      (fun a r => (CommandType.ofMethod s m).argument? stored a = some r)
      (m.params.map Argument.ofParam) received := mapM_eq_some_iff.mp h
  exact ⟨hdiffer, hlength, (List.forall₂_map_left_iff.mp harguments).imp fun p r hr =>
    receives_of_argument? (fun _ _ => mem_of_store hsecond hstore) hr⟩

end Spec

/-! ## 3. Values arrive -/

/-- Among pairs with different keys each is found. -/
theorem lookup_of_mem {β : Type} {es : List (String × β)} {name : String} {b : β}
    (hkeys : (es.map (·.1)).Nodup) (h : (name, b) ∈ es) : es.lookup name = some b := by
  obtain ⟨before, after, rfl⟩ := List.append_of_mem h
  refine List.lookup_eq_some_iff.mpr ⟨before, after, rfl, fun p hp => ?_⟩
  rw [List.map_append, List.map_cons] at hkeys
  have hne := (List.nodup_append.mp hkeys).2.2 p.1 (List.mem_map_of_mem hp) name
    List.mem_cons_self
  simpa using hne.symm

/-- **Every lookup succeeds** where the names differ.  What is handed on is what is behind the first
parameters, and before it perhaps something of the synthesis' own. -/
theorem handOn?_append (front shown : List String) (held : List (Held α)) {names own : List String}
    {args : List (Held α)} (hdiffer : (front ++ names).Nodup) (hfront : front.length = held.length)
    (hnames : names.length = args.length) (hown : ∀ name ∈ names, name ∉ own)
    (hshown : ∀ name ∈ shown, name ∈ own) :
    handOn? (front ++ names) own (shown ++ names) (held ++ args)
      = some (shown.map (fun _ => .own) ++ args) := by
  have hlength : (front ++ names).length = (held ++ args).length := by
    rw [List.length_append, List.length_append, hfront, hnames]
  refine handOn?_eq_some_iff.mpr ⟨hdiffer, hlength, List.rel_append ?_ ?_⟩
  · refine List.forall₂_map_right_iff.mpr (List.forall₂_same.mpr fun name hname => ?_)
    rw [List.lookup_append, List.lookup_graph _ (hshown name hname), Option.some_or]
  · refine List.forall₂_iff_zip.mpr ⟨hnames, fun {name h} hmem => ?_⟩
    have hnone : (own.map (·, (Held.own : Held α))).lookup name = none := by
      refine List.lookup_eq_none_iff.mpr fun p hp => ?_
      obtain ⟨n, hn, rfl⟩ := List.mem_map.mp hp
      have hne := ne_of_mem_of_not_mem hn (hown name (List.of_mem_zip hmem).1)
      simpa using hne.symm
    have hkeys : (((front ++ names).zip (held ++ args)).map (·.1)).Nodup := by
      rwa [List.map_fst_zip (Nat.le_of_eq hlength)]
    rw [List.lookup_append, hnone, Option.none_or]
    refine lookup_of_mem hkeys ?_
    rw [List.zip_append hfront]
    exact List.mem_append_right _ hmem

namespace Spec

variable {s : Spec} {m : Method} {timing : Timing} {values : List α}

/-- What stands before the captured parameters on two sides. -/
theorem map_before {β γ : Type} (f : β → γ) (b : β) : (s.before b).map f = s.before (f b) := by
  unfold before
  cases s.isInjected <;> rfl

theorem eq_of_mem_before {β : Type} {a b : β} (h : a ∈ s.before b) : a = b := by
  unfold before at h
  cases hinjected : s.isInjected with
  | false => simp [hinjected] at h
  | true => simpa [hinjected] using h

/-- The instance and the captured parameters have different names. -/
theorem nodup_captured (hdiffer : (m.params.map (·.name)).Nodup)
    (hfree : ∀ p ∈ m.params, p.name ∉ reservedNames) :
    (s.before "spec" ++ m.captured.map (·.name)).Nodup := by
  have hnames : (m.captured.map (·.name)).Nodup := hdiffer.sublist (List.filter_sublist.map _)
  have hspec : "spec" ∉ m.captured.map (·.name) := by
    intro hmem
    obtain ⟨p, hp, hname⟩ := List.mem_map.mp hmem
    exact hfree p (List.mem_of_mem_filter hp) (by rw [hname]; decide)
  unfold before
  cases s.isInjected with
  | false => exact hnames
  | true => exact List.nodup_cons.mpr ⟨hspec, hnames⟩

/-- So they are stored under different names. -/
theorem nodup_members (hdiffer : (s.before "spec" ++ m.captured.map (·.name)).Nodup) :
    (s.before "spec" ++ (m.captured.map (·.name)).map memberName).Nodup := by
  obtain ⟨hinstance, hnames, -⟩ := List.nodup_append.mp hdiffer
  refine List.nodup_append.mpr ⟨hinstance, List.Nodup.map memberName_injective hnames, ?_⟩
  intro name hname member hmember
  obtain rfl := eq_of_mem_before hname
  obtain ⟨param, -, rfl⟩ := List.mem_map.mp hmember
  exact specField_ne_memberName param

/-- An entry point hands on all values. -/
theorem handOn?_entryPoint_eq (hdiffer : ("c" :: m.captured.map (·.name)).Nodup)
    (hfree : "component" ∉ m.captured.map (·.name)) (hlength : m.captured.length = args.length) :
    (EntryPoint.ofMethod s m timing).handOn? args = some args := by
  rw [handOn?_entryPoint]
  exact handOn?_append ["c"] [] [.own] hdiffer rfl (by rwa [List.length_map])
    (fun name hname => by simpa using ne_of_mem_of_not_mem hname hfree) nofun

/-- The component's constructor hands on all values, behind the instance. -/
theorem handOn?_maker_eq (hdiffer : ("self" :: m.captured.map (·.name)).Nodup)
    (hfree : "::std::sync::Arc::clone(&self.spec)" ∉ m.captured.map (·.name))
    (hlength : m.captured.length = args.length) :
    (CommandMaker.ofMethod s m).handOn? args = some (s.before .own ++ args) := by
  have hshown : ∀ name ∈ s.before "::std::sync::Arc::clone(&self.spec)",
      name ∈ ["::std::sync::Arc::clone(&self.spec)"] :=
    fun name hname => List.mem_singleton.mpr (eq_of_mem_before hname)
  rw [handOn?_maker, ← map_before (fun _ => Held.own) "::std::sync::Arc::clone(&self.spec)"]
  exact handOn?_append ["self"] _ [.own] hdiffer rfl (by rwa [List.length_map])
    (fun name hname => by simpa using ne_of_mem_of_not_mem hname hfree) hshown

/-- The command stores all values, behind the instance. -/
theorem store?_eq (hdiffer : (s.before "spec" ++ m.captured.map (·.name)).Nodup)
    (hlength : m.captured.length = args.length) :
    (CommandType.ofMethod s m).store? (s.before .own ++ args)
      = some ((s.before "spec" ++ (m.captured.map (·.name)).map memberName).zip
          (s.before .own ++ args)) := by
  have hparams : (s.before "spec" ++ m.captured.map (·.name)).length
      = (s.before (Held.own : Held α) ++ args).length := by
    unfold before
    cases s.isInjected <;> simp [hlength]
  unfold CommandType.store?
  rw [map_param_fields, map_member_fields]
  have hstored : handOn? (s.before "spec" ++ m.captured.map (·.name)) []
      (s.before "spec" ++ m.captured.map (·.name)) (s.before .own ++ args)
        = some (s.before .own ++ args) :=
    handOn?_append [] [] [] hdiffer rfl hparams (fun _ _ => List.not_mem_nil) nofun
  rw [hstored]
  exact if_pos (nodup_members hdiffer)

/-- What is stored under the name of a parameter is a value. -/
theorem exists_value_of_stored (s : Spec) {p : Param} (hp : p ∈ m.captured)
    (hlength : m.captured.length = values.length) :
    ∃ v, ((s.before "spec" ++ (m.captured.map (·.name)).map memberName).zip
      (s.before .own ++ values.map Held.value)).lookup (memberName p.name) = some (.value v) := by
  have hkey : memberName p.name ∈
      (((m.captured.map (·.name)).map memberName).zip (values.map Held.value)).map (·.1) := by
    rw [List.map_fst_zip (by simp [hlength])]
    exact List.mem_map_of_mem (List.mem_map_of_mem hp)
  have hstored : ∃ v, (((m.captured.map (·.name)).map memberName).zip
      (values.map Held.value)).lookup (memberName p.name) = some (.value v) := by
    obtain ⟨e, he, hname⟩ := List.mem_map.mp hkey
    have hfound := List.lookup_isSome_iff.mpr ⟨e, he, beq_iff_eq.mpr hname.symm⟩
    obtain ⟨held, hheld⟩ := Option.isSome_iff_exists.mp hfound
    obtain ⟨v, -, rfl⟩ := List.mem_map.mp (List.of_mem_zip (mem_of_lookup hheld)).2
    exact ⟨v, hheld⟩
  unfold before
  cases s.isInjected with
  | false => exact hstored
  | true =>
    obtain ⟨v, hv⟩ := hstored
    refine ⟨v, ?_⟩
    rw [if_pos rfl, if_pos rfl, List.singleton_append, List.singleton_append, List.zip_cons_cons,
      List.lookup_cons, beq_false_of_ne (specField_ne_memberName p.name).symm]
    exact hv

/-- **All values arrive**, if the names of the parameters differ and are none that the functions bind
themselves. -/
theorem exists_receive? (hdiffer : (m.params.map (·.name)).Nodup)
    (hvalid : ∀ p ∈ m.params, isIdentifier p.name = true)
    (hfree : ∀ p ∈ m.params, p.name ∉ reservedNames) (hlength : m.captured.length = values.length) :
    ∃ received, s.receive? m timing values = some received := by
  have hnames : (m.captured.map (·.name)).Nodup :=
    hdiffer.sublist (List.filter_sublist.map _)
  have hfresh : ∀ name, isIdentifier name = false ∨ name ∈ reservedNames →
      name ∉ m.captured.map (·.name) := by
    intro name hname hmem
    obtain ⟨p, hp, rfl⟩ := List.mem_map.mp hmem
    have hparam := List.mem_of_mem_filter hp
    rcases hname with hinvalid | hreserved
    · exact absurd (hvalid p hparam) (by simp [hinvalid])
    · exact hfree p hparam hreserved
  have hbehind := nodup_captured (s := s) hdiffer hfree
  have hargs : m.captured.length = (values.map Held.value).length := by rwa [List.length_map]
  have hentry : (EntryPoint.ofMethod s m timing).handOn? (values.map .value)
      = some (values.map .value) :=
    handOn?_entryPoint_eq (List.nodup_cons.mpr ⟨hfresh _ (by decide), hnames⟩)
      (hfresh _ (by decide)) hargs
  have hmaker : (CommandMaker.ofMethod s m).handOn? (values.map .value)
      = some (s.before .own ++ values.map .value) :=
    handOn?_maker_eq (List.nodup_cons.mpr ⟨hfresh _ (by decide), hnames⟩)
      (hfresh _ (by decide)) hargs
  unfold receive?
  simp only [hentry, hmaker, store?_eq hbehind hargs, Option.bind_eq_bind, Option.bind_some]
  refine exists_mapM (List.forall_mem_map.mpr fun p hp => ?_)
  have hslots : (CommandType.ofMethod s m).slots.map (·.name) = m.slots.map (·.name) :=
    List.map_map
  unfold Argument.ofParam
  cases hrole : p.role with
  | captured =>
    have hcaptured : p ∈ m.captured := List.mem_filter.mpr ⟨hp, by simpa using hrole⟩
    have hthis : "this" ∉ m.slots.map (·.name) := by
      intro hmem
      obtain ⟨q, hq, hname⟩ := List.mem_map.mp hmem
      exact hfree q (List.mem_of_mem_filter hq) (by rw [hname]; decide)
    obtain ⟨v, hv⟩ := exists_value_of_stored s hcaptured hlength
    refine ⟨.value v, ?_⟩
    simp only [CommandType.argument?, hv, hslots, if_neg hthis]
  | slot =>
    have hbox : p.name ∈ m.slots.map (·.name) :=
      List.mem_map_of_mem (List.mem_filter.mpr ⟨hp, by simpa using hrole⟩)
    refine ⟨.box p.name, ?_⟩
    simp only [CommandType.argument?, hslots, if_pos hbox]

/-- Both entry points of a method have it called with the same. -/
theorem receive?_timing : s.receive? m .async values = s.receive? m .sync values :=
  rfl

end Spec

/-! ## 4. The way of an argument -/

/-- **Captured arguments reach the method at their own positions.**  In the sources of every method,
all lists on the way enumerate the captured parameters in the order of declaration, and these sources
are in the module of the spec.  Through either entry point, if the method is called it receives what
was passed for each captured parameter, in the place of that parameter, and in every other place the
box of the slot.  It is called if the names of its parameters differ and are none that the functions
bind themselves, and there is a value for each captured one. -/
theorem arguments_reach_method (s : Spec) (m : Method) :
    (∃ entry maker command, s.Lists m entry maker command ∧
      (∀ timing, s.entryPointArtifact m timing
        = .ofFunction ⟨entryPointName m.name timing, .inherent, entry timing⟩) ∧
      s.commandArtifact m = .ofFunction ⟨constructorName m.name, .inherent, maker⟩ ++
        .ofType ⟨commandTypeName m.name, command⟩ ∧
      (s.fields ≠ [] → m ∈ s.methods →
        (∀ timing, ⟨entryPointName m.name timing, .inherent, entry timing⟩ ∈
          s.artifacts.functions) ∧
        ⟨constructorName m.name, .inherent, maker⟩ ∈ s.artifacts.functions ∧
        ⟨commandTypeName m.name, command⟩ ∈ s.artifacts.types)) ∧
    ∀ (α : Type) (values : List α),
      (∀ timing received, s.receive? m timing values = some received →
        (m.captured.map (·.name)).Nodup ∧ m.captured.length = values.length ∧
        List.Forall₂ (Receives (m.passed values)) m.params received) ∧
      ((m.params.map (·.name)).Nodup →
        (∀ p ∈ m.params, isIdentifier p.name = true ∧ p.name ∉ reservedNames) →
        m.captured.length = values.length →
        ∃ received, ∀ timing, s.receive? m timing values = some received) := by
  refine ⟨⟨_, _, _, s.lists m, fun timing => rfl, rfl, fun hfields hm => ?_⟩,
    fun α values => ⟨?_, ?_⟩⟩
  · exact Spec.mem_artifacts (Spec.hasState_eq_true_iff.mpr hfields) hm
  · exact fun timing received => Spec.receives_of_receive?
  · intro hdiffer hnames hlength
    have hsync : ∃ received, s.receive? m .sync values = some received :=
      Spec.exists_receive? hdiffer (fun p hp => (hnames p hp).1) (fun p hp => (hnames p hp).2) hlength
    obtain ⟨received, hreceived⟩ := hsync
    refine ⟨received, fun timing => ?_⟩
    cases timing with
    | sync => exact hreceived
    | async => exact Spec.receive?_timing.trans hreceived

/-- A method of a spec that is an instance, with a slot between two captured parameters, of which the
first has a type of its own. -/
def raiseTo : Method :=
  ⟨"raise", [⟨"T", "Into<i32>"⟩],
    [⟨.captured, "by", "T"⟩, ⟨.slot, "count", "i32"⟩, ⟨.captured, "most", "i32"⟩]⟩

example : { Spec.ofComponent "Counter" with isInjected := true }.receive? raiseTo .async [7, 100]
    = some [.value 7, .box "count", .value 100] := by
  decide +kernel

/-- Both values arrive through either entry point, and the slot stays between them. -/
theorem arguments_reach_raiseTo :
    ∃ received, (∀ timing, { Spec.ofComponent "Counter" with isInjected := true }.receive? raiseTo
        timing [7, 100] = some received) ∧
      List.Forall₂ (Receives [("by", 7), ("most", 100)]) raiseTo.params received := by
  obtain ⟨-, hvalues⟩ :=
    arguments_reach_method { Spec.ofComponent "Counter" with isInjected := true } raiseTo
  obtain ⟨hright, hsome⟩ := hvalues Nat [7, 100]
  obtain ⟨received, hreceived⟩ := hsome (by decide) (by decide) rfl
  exact ⟨received, hreceived, (hright .sync received (hreceived .sync)).2.2⟩

end Carryover
