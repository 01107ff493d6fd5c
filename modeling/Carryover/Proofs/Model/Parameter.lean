/-
# What a parameter says

`Param.DescribedBy room t p`: the tree is a parameter, either an object with its kind anywhere among
the members, or the list of its kind, name and type.  The reader has to find the kind before it
knows what the rest is for, so it holds the rest, and what is held is checked through and through:
that is why the tree has to be sound and not nested too deep, also under keys that nobody asks for.

The reader works in two passes.  `splitMembers_eq_ok_iff` is the first one, which takes out the
kind; `Splits` relates what is left to the members.  `ofMembers_eq_ok_iff` is the second one.
-/
import Carryover.Model.Document
import Carryover.Proofs.Json.Records

namespace Carryover

open Json

/-! ## 1. What a parameter is -/

/-- The value names this role. -/
def Role.DescribedBy (t : Tree) (r : Role) : Prop :=
  t.IsText r.kind

/-- The members of a record, or the elements of a list under the keys of the fields, give this
parameter. -/
structure Param.GivenBy (ps : List (String × Tree)) (p : Param) : Prop where
  role : Present Role.DescribedBy (ps.lookup "kind") p.role
  name : Present Tree.IsText (ps.lookup "name") p.name
  type : Present Tree.IsText (ps.lookup "ty") p.type

/-- The value is this parameter, where there is room for it. -/
def Param.DescribedBy (room : Nat) (t : Tree) (p : Param) : Prop :=
  (∃ ps, t.IsRecord ["kind", "name", "ty"] ps ∧ p.GivenBy ps) ∧ t.Sound ∧ t.depth < room

/-- **A kind is read** where one of the two is named. -/
theorem Role.read_eq_ok_iff {t : Tree} {r : Role} : Role.read t = .ok r ↔ r.DescribedBy t := by
  unfold Role.read Role.DescribedBy
  rw [bind_eq_ok_iff, ← Tree.found_eq_text_iff]
  constructor
  · rintro ⟨found, hfound, hr⟩
    cases found with
    | text kind =>
      dsimp only at hr
      split_ifs at hr with hcaptured hslot
      · obtain rfl := Except.ok.inj hr
        rw [hfound, hcaptured]
      · obtain rfl := Except.ok.inj hr
        rw [hfound, hslot]
    | _ => cases hr
  · intro h
    refine ⟨_, h, ?_⟩
    cases r <;> rfl

namespace Param

variable {room : Nat} {role : Role} {p : Param} {key other : String} {t : Tree}
  {ps : List (String × Tree)} {others : List (String × Found)}

/-! ## 2. Lists -/

/-- Behind the kind stand the name and the type, and nothing else. -/
theorem ofItems_eq_ok_iff {founds : List Found} :
    ofItems role founds = .ok p ↔ role = p.role ∧ founds = [.text p.name, .text p.type] := by
  unfold ofItems
  split
  · simp
  · simp [bind_eq_ok_iff]
  · next name type rest =>
    simp only [bind_eq_ok_iff, Found.asText_eq_ok_iff]
    constructor
    · rintro ⟨name, rfl, type, rfl, h⟩
      split_ifs at h with hrest
      obtain rfl := Except.ok.inj h
      rw [List.isEmpty_iff.mp hrest]
      exact ⟨rfl, rfl⟩
    · rintro ⟨rfl, h⟩
      obtain ⟨rfl, rfl, rfl⟩ : name = .text p.name ∧ type = .text p.type ∧ rest = [] := by
        simpa using h
      exact ⟨_, rfl, _, rfl, rfl⟩

/-- Texts are held where there is room at all. -/
theorem hold_eq_texts_iff {rest : Items} {name type : String} :
    rest.hold room = .ok [.text name, .text type] ↔
      ∃ n ty, rest = .ofList [n, ty] ∧ n.IsText name ∧ ty.IsText type := by
  rw [Items.hold_eq_readEach, Items.readEach_eq_ok_iff]
  constructor
  · rintro ⟨ts, rfl, h⟩
    obtain _ | ⟨hn, _ | ⟨hty, _ | _⟩⟩ := h
    exact ⟨_, _, rfl, Tree.hold_eq_text_iff.mp hn, Tree.hold_eq_text_iff.mp hty⟩
  · rintro ⟨n, ty, rfl, hn, hty⟩
    rw [← @Tree.hold_eq_text_iff room] at hn hty
    exact ⟨_, rfl, .cons hn (.cons hty .nil)⟩

/-! ## 3. Objects: the kind -/

/-- The members that are not the kind, as they are held; the kind could be held as well. -/
inductive Splits (room : Nat) : List (String × Tree) → List (String × Found) → Prop
  | nil : Splits room [] []
  | kind {t : Tree} {found : Found} {ps : List (String × Tree)} {others : List (String × Found)}
      (hold : t.hold room = .ok found) (rest : Splits room ps others) :
      Splits room (("kind", t) :: ps) others
  | other {key : String} {t : Tree} {found : Found} {ps : List (String × Tree)}
      {others : List (String × Found)} (ne : key ≠ "kind") (hold : t.hold room = .ok found)
      (rest : Splits room ps others) : Splits room ((key, t) :: ps) ((key, found) :: others)

theorem exists_splits_iff :
    (∃ others, Splits room ps others) ↔ ∀ p ∈ ps, ∃ found, p.2.hold room = .ok found := by
  constructor
  · rintro ⟨others, h⟩
    induction h with
    | nil => exact nofun
    | kind hold _ ih => exact List.forall_mem_cons.mpr ⟨⟨_, hold⟩, ih⟩
    | other _ hold _ ih => exact List.forall_mem_cons.mpr ⟨⟨_, hold⟩, ih⟩
  · intro h
    induction ps with
    | nil => exact ⟨[], .nil⟩
    | cons p ps ih =>
      obtain ⟨⟨found, hfound⟩, hps⟩ := List.forall_mem_cons.mp h
      obtain ⟨others, hothers⟩ := ih hps
      obtain ⟨key, t⟩ := p
      by_cases hkey : key = "kind"
      · subst hkey
        exact ⟨others, .kind hfound hothers⟩
      · exact ⟨_, .other hkey hfound hothers⟩

/-- Other keys are there as often. -/
theorem Splits.timesOf_eq (h : Splits room ps others) (hkey : key ≠ "kind") :
    timesOf key others = timesOf key ps := by
  induction h with
  | nil => rfl
  | kind _ _ ih => rw [timesOf_cons_of_ne hkey, ih]
  | @other first t found ps others _ _ _ ih =>
    by_cases hfirst : key = first
    · rw [hfirst] at ih ⊢
      rw [timesOf_cons_self, timesOf_cons_self, ih]
    · rw [timesOf_cons_of_ne hfirst, timesOf_cons_of_ne hfirst, ih]

/-- A text is found where one is given. -/
theorem Splits.lookup_eq_text_iff (h : Splits room ps others) (hkey : key ≠ "kind") {s : String} :
    others.lookup key = some (.text s) ↔ Present Tree.IsText (ps.lookup key) s := by
  induction h with
  | nil => simp [Present]
  | kind _ _ ih => rw [lookup_cons_of_ne hkey, ih]
  | @other first t found ps others _ hold _ ih =>
    by_cases hfirst : key = first
    · subst hfirst
      simp only [List.lookup_cons_self, Present, Option.some.injEq, exists_eq_left',
        ← @Tree.hold_eq_text_iff room, hold, Except.ok.injEq]
    · rw [lookup_cons_of_ne hfirst, lookup_cons_of_ne hfirst, ih]

/-- **Behind the kind** there must not be another one. -/
theorem splitMembers_some_eq_ok_iff {room : Nat} {role role' : Role} :
    ∀ {members : Members} {others : List (String × Found)},
      splitMembers room (some role) members = .ok (some role', others) ↔
        role = role' ∧
          ∃ ps, members.Say ps ∧ timesOf "kind" ps = 0 ∧ Splits room ps others
  | .close, others => by
    simp only [splitMembers, Except.ok.injEq, Prod.mk.injEq, Option.some.injEq]
    constructor
    · rintro ⟨rfl, rfl⟩
      exact ⟨rfl, [], .close, rfl, .nil⟩
    · rintro ⟨rfl, ps, hsay, -, hsplits⟩
      cases hsay
      cases hsplits
      exact ⟨rfl, rfl⟩
  | .stop f, others => by
    constructor
    · intro h
      cases h
    · rintro ⟨-, _, hsay, -⟩
      cases hsay
  | .more us t rest, others => by
    simp only [splitMembers, bind_eq_ok_iff, decode_eq_ok_iff]
    constructor
    · rintro ⟨key, hkey, h⟩
      by_cases hkind : key = "kind"
      · rw [if_pos hkind] at h
        cases h
      · rw [if_neg hkind] at h
        obtain ⟨found, hfound, h⟩ := bind_eq_ok_iff.mp h
        obtain ⟨⟨role?, others'⟩, hrest, h⟩ := bind_eq_ok_iff.mp h
        obtain ⟨rfl, rfl⟩ := Prod.mk.inj (Except.ok.inj h)
        obtain ⟨hrole, ps, hsay, htimes, hsplits⟩ := splitMembers_some_eq_ok_iff.mp hrest
        refine ⟨hrole, (key, t) :: ps, .more hkey hsay, ?_, .other hkind hfound hsplits⟩
        rw [timesOf_cons_of_ne (Ne.symm hkind), htimes]
    · rintro ⟨hrole, _, hsay, htimes, hsplits⟩
      cases hsay with
      | @more _ key _ _ ps hkey hsay =>
      refine ⟨key, hkey, ?_⟩
      cases hsplits with
      | kind =>
        rw [timesOf_cons_self] at htimes
        exact absurd htimes (Nat.succ_ne_zero _)
      | other hkind hfound hsplits =>
        rw [timesOf_cons_of_ne (Ne.symm hkind)] at htimes
        rw [if_neg hkind, hfound]
        have hrest := splitMembers_some_eq_ok_iff.mpr ⟨hrole, ps, hsay, htimes, hsplits⟩
        simp only [bind_eq_ok_iff, pure_eq_ok_iff]
        exact ⟨_, rfl, _, hrest, rfl⟩

/-- **The kind is found** where it stands, once, and the other members are held. -/
theorem splitMembers_eq_ok_iff {room : Nat} {role : Role} :
    ∀ {members : Members} {others : List (String × Found)},
      splitMembers room none members = .ok (some role, others) ↔
        ∃ ps, members.Say ps ∧ timesOf "kind" ps = 1 ∧
          Present Role.DescribedBy (ps.lookup "kind") role ∧ Splits room ps others
  | .close, others => by
    constructor
    · intro h
      exact absurd (Prod.mk.inj (Except.ok.inj h)).1 nofun
    · rintro ⟨ps, hsay, htimes, -⟩
      cases hsay
      cases htimes
  | .stop f, others => by
    constructor
    · intro h
      cases h
    · rintro ⟨_, hsay, -⟩
      cases hsay
  | .more us t rest, others => by
    simp only [splitMembers, bind_eq_ok_iff, decode_eq_ok_iff]
    constructor
    · rintro ⟨key, hkey, h⟩
      split_ifs at h with hkind
      · obtain ⟨role', hrole, h⟩ := bind_eq_ok_iff.mp h
        obtain ⟨rfl, ps, hsay, htimes, hsplits⟩ := splitMembers_some_eq_ok_iff.mp h
        have hdescribed := Role.read_eq_ok_iff.mp hrole
        subst hkind
        refine ⟨_, .more hkey hsay, ?_, ?_, .kind (Tree.hold_eq_text_iff.mpr hdescribed) hsplits⟩
        · rw [timesOf_cons_self, htimes]
        · exact ⟨t, List.lookup_cons_self, hdescribed⟩
      · obtain ⟨found, hfound, h⟩ := bind_eq_ok_iff.mp h
        obtain ⟨⟨role?, others'⟩, hrest, h⟩ := bind_eq_ok_iff.mp h
        obtain ⟨rfl, rfl⟩ := Prod.mk.inj (Except.ok.inj h)
        obtain ⟨ps, hsay, htimes, hrole, hsplits⟩ := splitMembers_eq_ok_iff.mp hrest
        refine ⟨_, .more hkey hsay, ?_, ?_, .other hkind hfound hsplits⟩
        · rw [timesOf_cons_of_ne (Ne.symm hkind), htimes]
        · rwa [lookup_cons_of_ne (Ne.symm hkind)]
    · rintro ⟨_, hsay, htimes, hrole, hsplits⟩
      cases hsay with
      | @more _ key _ _ ps hkey hsay =>
      refine ⟨key, hkey, ?_⟩
      cases hsplits with
      | kind _ hsplits =>
        rw [timesOf_cons_self, Nat.add_eq_right] at htimes
        obtain ⟨_, ht, hdescribed⟩ := hrole
        obtain rfl := Option.some.inj (List.lookup_cons_self.symm.trans ht)
        rw [if_pos rfl, Role.read_eq_ok_iff.mpr hdescribed]
        exact splitMembers_some_eq_ok_iff.mpr ⟨rfl, ps, hsay, htimes, hsplits⟩
      | other hkind hfound hsplits =>
        rw [timesOf_cons_of_ne (Ne.symm hkind)] at htimes
        rw [lookup_cons_of_ne (Ne.symm hkind)] at hrole
        have hrest := splitMembers_eq_ok_iff.mpr ⟨ps, hsay, htimes, hrole, hsplits⟩
        rw [if_neg hkind, hfound]
        simp only [bind_eq_ok_iff, pure_eq_ok_iff]
        exact ⟨_, rfl, _, hrest, rfl⟩

/-! ## 4. Objects: the name and the type -/

/-- The text under a key, which was `held?` already or is still to come. -/
def Awaits (key : String) (held? : Option String) (others : List (String × Found)) (s : String) :
    Prop :=
  match held? with
  | some held => held = s ∧ timesOf key others = 0
  | none => timesOf key others = 1 ∧ others.lookup key = some (.text s)

theorem awaits_nil_iff {held? : Option String} {s : String} :
    Awaits key held? [] s ↔ held? = some s := by
  cases held? with
  | none => exact ⟨fun h => absurd h.1 nofun, nofun⟩
  | some held => exact ⟨fun h => congrArg some h.1, fun h => ⟨Option.some.inj h, rfl⟩⟩

/-- The text comes, and no other one behind it. -/
theorem awaits_cons_self_iff {found : Found} {s : String} :
    Awaits key none ((key, found) :: others) s ↔
      found = .text s ∧ timesOf key others = 0 := by
  unfold Awaits
  rw [timesOf_cons_self, List.lookup_cons_self, Nat.add_eq_right, Option.some.injEq, and_comm]

theorem awaits_cons_of_ne_iff (h : other ≠ key) {held? : Option String} {found : Found}
    {s : String} :
    Awaits other held? ((key, found) :: others) s ↔ Awaits other held? others s := by
  unfold Awaits
  rw [timesOf_cons_of_ne h, lookup_cons_of_ne h]

theorem not_awaits_cons_self {held : String} {found : Found} {s : String} :
    ¬ Awaits key (some held) ((key, found) :: others) s := by
  rintro ⟨-, htimes⟩
  rw [timesOf_cons_self] at htimes
  exact absurd htimes (Nat.succ_ne_zero _)

/-- **The name and the type are found** among what was held. -/
theorem ofMembers_eq_ok_iff :
    ∀ {others : List (String × Found)} {name? type? : Option String},
      ofMembers role name? type? others = .ok p ↔
        role = p.role ∧ Awaits "name" name? others p.name ∧ Awaits "ty" type? others p.type
  | [], name?, type? => by
    simp only [ofMembers, bind_eq_ok_iff, pure_eq_ok_iff, orMissing_eq_ok_iff, awaits_nil_iff]
    constructor
    · rintro ⟨name, rfl, type, rfl, rfl⟩
      exact ⟨rfl, rfl, rfl⟩
    · rintro ⟨rfl, rfl, rfl⟩
      exact ⟨_, rfl, _, rfl, rfl⟩
  | (key, found) :: rest, name?, type? => by
    unfold ofMembers
    split_ifs with hname hheld htype hheld
    · subst hname
      obtain ⟨held, rfl⟩ := Option.isSome_iff_exists.mp hheld
      constructor
      · intro h
        cases h
      · rintro ⟨-, h, -⟩
        exact absurd h not_awaits_cons_self
    · subst hname
      obtain rfl := Option.not_isSome_iff_eq_none.mp hheld
      simp only [bind_eq_ok_iff, Found.asText_eq_ok_iff, ofMembers_eq_ok_iff, awaits_cons_self_iff,
        awaits_cons_of_ne_iff (show "ty" ≠ "name" by decide)]
      constructor
      · rintro ⟨name, rfl, hrole, ⟨rfl, htimes⟩, htype⟩
        exact ⟨hrole, ⟨rfl, htimes⟩, htype⟩
      · rintro ⟨hrole, ⟨rfl, htimes⟩, htype⟩
        exact ⟨_, rfl, hrole, ⟨rfl, htimes⟩, htype⟩
    · subst htype
      obtain ⟨held, rfl⟩ := Option.isSome_iff_exists.mp hheld
      constructor
      · intro h
        cases h
      · rintro ⟨-, -, h⟩
        exact absurd h not_awaits_cons_self
    · subst htype
      obtain rfl := Option.not_isSome_iff_eq_none.mp hheld
      simp only [bind_eq_ok_iff, Found.asText_eq_ok_iff, ofMembers_eq_ok_iff, awaits_cons_self_iff,
        awaits_cons_of_ne_iff (show "name" ≠ "ty" by decide)]
      constructor
      · rintro ⟨type, rfl, hrole, hname, rfl, htimes⟩
        exact ⟨hrole, hname, rfl, htimes⟩
      · rintro ⟨hrole, hname, rfl, htimes⟩
        exact ⟨_, rfl, hrole, hname, rfl, htimes⟩
    · rw [ofMembers_eq_ok_iff, awaits_cons_of_ne_iff (Ne.symm hname),
        awaits_cons_of_ne_iff (Ne.symm htype)]

/-- What is awaited of all that is held, is given once. -/
theorem Splits.awaits_iff (h : Splits room ps others) (hkey : key ≠ "kind") {s : String} :
    Awaits key none others s ↔
      timesOf key ps ≤ 1 ∧ Present Tree.IsText (ps.lookup key) s := by
  unfold Awaits
  rw [h.timesOf_eq hkey, h.lookup_eq_text_iff hkey]
  refine and_congr_left fun hgiven => ?_
  obtain ⟨t, ht, -⟩ := hgiven
  exact timesOf_eq_one_iff ht

/-! ## 5. Parameters as a whole -/

/-- An object is a parameter. -/
theorem read_object_eq_ok_iff (hroom : 1 < room) {members : Members} :
    Param.read room (.object members) = .ok p ↔ p.DescribedBy room (.object members) := by
  simp only [Param.read, bind_eq_ok_iff, enter_eq_ok_iff, orMissing_eq_ok_iff]
  have hin : 0 < room - 1 := by omega
  constructor
  · rintro ⟨_, ⟨-, rfl⟩, ⟨role?, others⟩, hsplit, role, rfl, hmembers⟩
    obtain ⟨ps, hsay, hkind, hrole, hsplits⟩ := splitMembers_eq_ok_iff.mp hsplit
    obtain ⟨rfl, hname, htype⟩ := ofMembers_eq_ok_iff.mp hmembers
    obtain ⟨hname, hname'⟩ := (hsplits.awaits_iff (by decide)).mp hname
    obtain ⟨htype, htype'⟩ := (hsplits.awaits_iff (by decide)).mp htype
    have hheld := exists_splits_iff.mp ⟨others, hsplits⟩
    obtain ⟨hsound, hdepth⟩ :=
      (Members.exists_hold_iff hin members).mp (hsay.exists_hold_iff.mpr hheld)
    refine ⟨⟨ps, .object hsay ?_ ?_, hrole, hname', htype'⟩, hsound, ?_⟩
    · simp only [Once, List.forall_mem_cons]
      exact ⟨Nat.le_of_eq hkind, hname, htype, List.forall_mem_nil _⟩
    · intro q hq _
      exact ((Tree.exists_hold_iff hin q.2).mp (hheld q hq)).1.whole
    · rw [Tree.depth]
      omega
  · rintro ⟨⟨ps, hrecord, hrole, hname, htype⟩, hsound, hdepth⟩
    cases hrecord with
    | object hsay honce _ =>
    rw [Tree.depth] at hdepth
    simp only [Once, List.forall_mem_cons] at honce
    obtain ⟨hkind, honce, honce', -⟩ := honce
    have hheld := hsay.exists_hold_iff.mp
      ((Members.exists_hold_iff hin members).mpr ⟨hsound, by omega⟩)
    obtain ⟨others, hsplits⟩ := exists_splits_iff.mpr hheld
    obtain ⟨t, ht, hdescribed⟩ := hrole
    refine ⟨_, ⟨hroom, rfl⟩, _, splitMembers_eq_ok_iff.mpr
      ⟨ps, hsay, (timesOf_eq_one_iff ht).mpr hkind, ⟨t, ht, hdescribed⟩, hsplits⟩, _, rfl, ?_⟩
    exact ofMembers_eq_ok_iff.mpr ⟨rfl, (hsplits.awaits_iff (by decide)).mpr ⟨honce, hname⟩,
      (hsplits.awaits_iff (by decide)).mpr ⟨honce', htype⟩⟩

/-- A list is a parameter. -/
theorem read_list_eq_ok_iff (hroom : 1 < room) {items : Items} :
    Param.read room (.list items) = .ok p ↔ p.DescribedBy room (.list items) := by
  constructor
  · intro h
    obtain ⟨_, henter, h⟩ := bind_eq_ok_iff.mp h
    obtain ⟨-, rfl⟩ := enter_eq_ok_iff.mp henter
    cases items with
    | close => cases h
    | stop f => cases h
    | more t rest =>
      simp only [bind_eq_ok_iff, Role.read_eq_ok_iff, ofItems_eq_ok_iff] at h
      obtain ⟨_, hrole, _, hheld, rfl, rfl⟩ := h
      obtain ⟨name, type, rfl, hname, htype⟩ := hold_eq_texts_iff.mp hheld
      refine ⟨⟨_, @Tree.IsRecord.list _ [t, name, type] (Nat.le_refl 3), ⟨t, rfl, hrole⟩,
        ⟨name, rfl, hname⟩, ⟨type, rfl, htype⟩⟩, ?_, ?_⟩
      · exact ⟨Tree.IsText.sound hrole, hname.sound, htype.sound, trivial⟩
      · simp [Tree.depth, Items.depth, Items.ofList, Tree.IsText.depth_eq hrole, hname.depth_eq,
          htype.depth_eq, hroom]
  · rintro ⟨⟨ps, hrecord, ⟨kind, hkind, hrole⟩, ⟨name, hname, hname'⟩, ⟨type, htype, htype'⟩⟩, -, -⟩
    obtain ⟨ts, rfl, hfits, rfl⟩ := Tree.isRecord_list_iff.mp hrecord
    rcases ts with _ | ⟨t, _ | ⟨n, _ | ⟨ty, _ | ⟨more, ts⟩⟩⟩⟩
    · cases hkind
    · cases hname
    · cases htype
    · obtain rfl := Option.some.inj hkind
      obtain rfl := Option.some.inj hname
      obtain rfl := Option.some.inj htype
      refine bind_eq_ok_iff.mpr ⟨_, enter_eq_ok_iff.mpr ⟨hroom, rfl⟩, ?_⟩
      refine bind_eq_ok_iff.mpr ⟨_, Role.read_eq_ok_iff.mpr hrole, ?_⟩
      refine bind_eq_ok_iff.mpr ⟨_, hold_eq_texts_iff.mpr ⟨_, _, rfl, hname', htype'⟩, ?_⟩
      exact ofItems_eq_ok_iff.mpr ⟨rfl, rfl⟩
    · exact absurd hfits (by simp)

/-- **A parameter is read** exactly where the value is one. -/
theorem read_eq_ok_iff (hroom : 1 < room) : Param.read room t = .ok p ↔ p.DescribedBy room t := by
  cases t with
  | list items => exact read_list_eq_ok_iff hroom
  | object members => exact read_object_eq_ok_iff hroom
  | _ =>
    simp only [Param.read, bind_eq_ok_iff, Found.isNot]
    constructor
    · rintro ⟨_, -, h⟩
      cases h
    · rintro ⟨⟨_, hrecord, -⟩, -⟩
      cases hrecord

end Param

end Carryover
