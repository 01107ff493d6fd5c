/-
# What values say

What a tree has to be so that a reader takes it in, said without the reader:

* `Tree.IsText`, `Tree.IsBool`, `Tree.IsListOf`: a value of exactly that type;
* `Tree.Whole`: a value that is grammatical to its end, which is all that a skipped one has to be;
* `Tree.Sound` and `Tree.depth`: a value that can be held, its texts, numbers and nesting in order.

Next to each stands the lemma that a reader succeeds exactly there.
-/
import Mathlib.Data.List.Forall2
import Carryover.Json.Walk
import Carryover.Proofs.Json.Spelling

namespace Carryover.Json

/-! ## 1. Values of one type -/

/-- The value is this text. -/
def Tree.IsText (t : Tree) (s : String) : Prop :=
  ∃ us, t = .text us ∧ StandFor us s.toList

/-- The value is this truth value. -/
def Tree.IsBool (t : Tree) (b : Bool) : Prop :=
  t = .bool b

/-- The value is a list, and its elements say in turn what `Says` says they do. -/
def Tree.IsListOf {α : Type} (Says : Tree → α → Prop) (t : Tree) (as : List α) : Prop :=
  ∃ ts, t = .list (Items.ofList ts) ∧ List.Forall₂ Says ts as

/-- What shows as a text is one. -/
theorem Tree.found_eq_text_iff {t : Tree} {s : String} :
    t.found = .ok (.text s) ↔ t.IsText s := by
  unfold Tree.IsText
  cases t with
  | text us =>
    simp only [Tree.found, bind_eq_ok_iff, pure_eq_ok_iff, decode_eq_ok_iff]
    simp
  | number l =>
    simp only [Tree.found, bind_eq_ok_iff, pure_eq_ok_iff]
    simp
  | _ => simp [Tree.found]

/-- What shows as a truth value is one. -/
theorem Tree.found_eq_bool_iff {t : Tree} {b : Bool} : t.found = .ok (.bool b) ↔ t.IsBool b := by
  unfold Tree.IsBool
  cases t with
  | text us =>
    simp only [Tree.found, bind_eq_ok_iff, pure_eq_ok_iff]
    simp
  | number l =>
    simp only [Tree.found, bind_eq_ok_iff, pure_eq_ok_iff]
    simp
  | _ => simp [Tree.found]

theorem Found.asText_eq_ok_iff {found : Found} {s : String} :
    found.asText = .ok s ↔ found = .text s := by
  cases found with
  | text s' => simp [Found.asText]
  | _ => simp [Found.asText, Found.isNot]

/-- **A wanted text.** -/
theorem Tree.asText_eq_ok_iff {t : Tree} {s : String} : t.asText = .ok s ↔ t.IsText s := by
  unfold Tree.asText
  simp only [bind_eq_ok_iff, Found.asText_eq_ok_iff, exists_eq_right, Tree.found_eq_text_iff]

/-- **A wanted truth value.** -/
theorem Tree.asBool_eq_ok_iff {t : Tree} {b : Bool} : t.asBool = .ok b ↔ t.IsBool b := by
  unfold Tree.asBool
  rw [bind_eq_ok_iff, ← Tree.found_eq_bool_iff]
  constructor
  · rintro ⟨found, hfound, hb⟩
    cases found with
    | bool b' =>
      obtain rfl := Except.ok.inj hb
      exact hfound
    | _ => exact absurd hb nofun
  · exact fun h => ⟨_, h, rfl⟩

/-- There is room for one more list or object, or there is none. -/
theorem enter_eq_ok_iff {room inner : Nat} :
    enter room = .ok inner ↔ 1 < room ∧ inner = room - 1 := by
  by_cases h : room ≤ 1
  · rw [enter, if_pos h]
    constructor
    · intro hroom
      cases hroom
    · rintro ⟨hroom, -⟩
      exact absurd hroom (Nat.not_lt.mpr h)
  · rw [enter, if_neg h, Except.ok.injEq]
    constructor
    · rintro rfl
      exact ⟨Nat.lt_of_not_le h, rfl⟩
    · rintro ⟨-, rfl⟩
      rfl

/-- Elements that are read each. -/
theorem Items.readEach_eq_ok_iff {α : Type} {read : Tree → Except Problem α} :
    ∀ {items : Items} {as : List α}, items.readEach read = .ok as ↔
      ∃ ts, items = .ofList ts ∧ List.Forall₂ (fun t a => read t = .ok a) ts as
  | .close, as => by
    constructor
    · intro h
      obtain rfl := Except.ok.inj h
      exact ⟨[], rfl, .nil⟩
    · rintro ⟨_ | ⟨t, ts⟩, hts, has⟩
      · cases has
        rfl
      · exact absurd hts nofun
  | .stop f, as => by
    refine ⟨nofun, ?_⟩
    rintro ⟨_ | ⟨t, ts⟩, hts, -⟩
    all_goals exact absurd hts nofun
  | .more t rest, as => by
    simp only [Items.readEach, bind_eq_ok_iff, pure_eq_ok_iff, Items.readEach_eq_ok_iff]
    constructor
    · rintro ⟨a, ha, as, ⟨ts, rfl, has⟩, rfl⟩
      exact ⟨t :: ts, rfl, .cons ha has⟩
    · rintro ⟨_ | ⟨t', ts⟩, hts, has⟩
      · exact absurd hts nofun
      · obtain ⟨rfl, rfl⟩ := Items.more.inj hts
        cases has with
        | cons ha has => exact ⟨_, ha, _, ⟨ts, rfl, has⟩, rfl⟩

/-- **A wanted list**, with room for its elements. -/
theorem readList_eq_ok_iff {α : Type} {read : Reader α} {Says : Tree → α → Prop} {room : Nat}
    {t : Tree} {as : List α} (hroom : 1 < room)
    (hread : ∀ t a, read (room - 1) t = .ok a ↔ Says t a) :
    readList read room t = .ok as ↔ t.IsListOf Says as := by
  unfold readList Tree.IsListOf
  cases t with
  | list items =>
    simp only [bind_eq_ok_iff, enter_eq_ok_iff, Items.readEach_eq_ok_iff, Tree.list.injEq]
    constructor
    · rintro ⟨_, ⟨-, rfl⟩, ts, rfl, has⟩
      exact ⟨ts, rfl, has.imp fun t a => (hread t a).mp⟩
    · rintro ⟨ts, rfl, has⟩
      exact ⟨_, ⟨hroom, rfl⟩, ts, rfl, has.imp fun t a => (hread t a).mpr⟩
  | _ => simp [bind_eq_ok_iff, Found.isNot]

/-! ## 2. Skipped values -/

mutual

/-- Is the value grammatical to its end? -/
def Tree.Whole : Tree → Prop
  | .list items => items.Whole
  | .object members => members.Whole
  | .fault _ => False
  | _ => True

/-- Are all elements grammatical, and is their end reached? -/
def Items.Whole : Items → Prop
  | .close => True
  | .stop _ => False
  | .more t rest => t.Whole ∧ rest.Whole

/-- Are all members grammatical, and is their end reached? -/
def Members.Whole : Members → Prop
  | .close => True
  | .stop _ => False
  | .more _ t rest => t.Whole ∧ rest.Whole

end

mutual

/-- **A skipped value.** -/
theorem Tree.skip_eq_ok_iff : ∀ t : Tree, t.skip = .ok () ↔ t.Whole
  | .list items => items.skip_eq_ok_iff
  | .object members => members.skip_eq_ok_iff
  | .fault _ => ⟨nofun, False.elim⟩
  | .null | .bool _ | .number _ | .text _ => ⟨fun _ => trivial, fun _ => rfl⟩

/-- Skipped elements. -/
theorem Items.skip_eq_ok_iff : ∀ items : Items, items.skip = .ok () ↔ items.Whole
  | .close => ⟨fun _ => trivial, fun _ => rfl⟩
  | .stop _ => ⟨nofun, False.elim⟩
  | .more t rest => by
    simp only [Items.skip, Items.Whole, bind_eq_ok_iff, t.skip_eq_ok_iff, rest.skip_eq_ok_iff,
      exists_const]

/-- Skipped members. -/
theorem Members.skip_eq_ok_iff : ∀ members : Members, members.skip = .ok () ↔ members.Whole
  | .close => ⟨fun _ => trivial, fun _ => rfl⟩
  | .stop _ => ⟨nofun, False.elim⟩
  | .more _ t rest => by
    simp only [Members.skip, Members.Whole, bind_eq_ok_iff, t.skip_eq_ok_iff,
      rest.skip_eq_ok_iff, exists_const]

end

/-! ## 3. Held values -/

mutual

/-- Do all texts of the value stand for characters, and have all its numbers a value? -/
def Tree.Sound : Tree → Prop
  | .list items => items.Sound
  | .object members => members.Sound
  | .null => True
  | .bool _ => True
  | .number l => l.value?.isSome = true
  | .text us => ∃ cs, StandFor us cs
  | .fault _ => False

/-- Are all elements sound, and is their end reached? -/
def Items.Sound : Items → Prop
  | .close => True
  | .stop _ => False
  | .more t rest => t.Sound ∧ rest.Sound

/-- Are all keys and values sound, and is their end reached? -/
def Members.Sound : Members → Prop
  | .close => True
  | .stop _ => False
  | .more key t rest => (∃ cs, StandFor key cs) ∧ t.Sound ∧ rest.Sound

end

mutual

/-- How many lists and objects are open at once at the innermost place of the value. -/
def Tree.depth : Tree → Nat
  | .list items => items.depth + 1
  | .object members => members.depth + 1
  | _ => 0

/-- The depth of the deepest element. -/
def Items.depth : Items → Nat
  | .more t rest => max t.depth rest.depth
  | _ => 0

/-- The depth of the deepest value. -/
def Members.depth : Members → Nat
  | .more _ t rest => max t.depth rest.depth
  | _ => 0

end

/-- A text in order. -/
theorem exists_decode_iff {us : List TextUnit} :
    (∃ s, decode us = .ok s) ↔ ∃ cs, StandFor us cs := by
  simp only [decode_eq_ok_iff]
  constructor
  · exact fun ⟨s, hs⟩ => ⟨s.toList, hs⟩
  · exact fun ⟨cs, hcs⟩ => ⟨String.ofList cs, by rwa [String.toList_ofList]⟩

/-- A number in order. -/
theorem exists_value_iff {l : Literal} : (∃ n, l.value = .ok n) ↔ l.value?.isSome = true := by
  unfold Literal.value
  cases l.value? <;> simp

mutual

/-- **A value can be held** if it is sound, and where there is room for its depth. -/
theorem Tree.exists_hold_iff {room : Nat} (hroom : 0 < room) :
    ∀ t : Tree, (∃ found, t.hold room = .ok found) ↔ t.Sound ∧ t.depth < room
  | .list items => by
    simp only [Tree.hold, Tree.Sound, Tree.depth, bind_eq_ok_iff, pure_eq_ok_iff, enter_eq_ok_iff,
      discard_eq_ok_iff]
    constructor
    · rintro ⟨_, _, ⟨hopen, rfl⟩, _, hitems, -⟩
      have hin := (items.exists_hold_iff (show 0 < room - 1 by omega)).mp hitems
      exact ⟨hin.1, by omega⟩
    · rintro ⟨hsound, hdepth⟩
      have hin := (items.exists_hold_iff (show 0 < room - 1 by omega)).mpr
        ⟨hsound, by omega⟩
      exact ⟨_, _, ⟨by omega, rfl⟩, ⟨⟩, hin, rfl⟩
  | .object members => by
    simp only [Tree.hold, Tree.Sound, Tree.depth, bind_eq_ok_iff, pure_eq_ok_iff, enter_eq_ok_iff,
      discard_eq_ok_iff]
    constructor
    · rintro ⟨_, _, ⟨hopen, rfl⟩, _, hmembers, -⟩
      have hin := (members.exists_hold_iff (show 0 < room - 1 by omega)).mp hmembers
      exact ⟨hin.1, by omega⟩
    · rintro ⟨hsound, hdepth⟩
      have hin := (members.exists_hold_iff (show 0 < room - 1 by omega)).mpr
        ⟨hsound, by omega⟩
      exact ⟨_, _, ⟨by omega, rfl⟩, ⟨⟩, hin, rfl⟩
  | .null => by simp [Tree.hold, Tree.Sound, Tree.depth, hroom]
  | .bool _ => by simp [Tree.hold, Tree.Sound, Tree.depth, hroom]
  | .number l => by
    simp only [Tree.hold, Tree.Sound, Tree.depth, bind_eq_ok_iff, pure_eq_ok_iff,
      ← exists_value_iff]
    simp [hroom]
  | .text us => by
    simp only [Tree.hold, Tree.Sound, Tree.depth, bind_eq_ok_iff, pure_eq_ok_iff,
      ← exists_decode_iff]
    simp [hroom]
  | .fault _ => by simp [Tree.hold, Tree.Sound]

/-- Elements can be held if each can. -/
theorem Items.exists_hold_iff {room : Nat} (hroom : 0 < room) :
    ∀ items : Items, (∃ found, items.hold room = .ok found) ↔ items.Sound ∧ items.depth < room
  | .close => by simp [Items.hold, Items.Sound, Items.depth, hroom]
  | .stop _ => by simp [Items.hold, Items.Sound]
  | .more t rest => by
    simp only [Items.hold, Items.Sound, Items.depth, bind_eq_ok_iff, pure_eq_ok_iff, Nat.max_lt]
    rw [and_and_and_comm, ← t.exists_hold_iff hroom, ← rest.exists_hold_iff hroom]
    simp

/-- Members can be held if each key is sound and each value can be held. -/
theorem Members.exists_hold_iff {room : Nat} (hroom : 0 < room) :
    ∀ members : Members,
      (∃ found, members.hold room = .ok found) ↔ members.Sound ∧ members.depth < room
  | .close => by simp [Members.hold, Members.Sound, Members.depth, hroom]
  | .stop _ => by simp [Members.hold, Members.Sound]
  | .more key t rest => by
    simp only [Members.hold, Members.Sound, Members.depth, bind_eq_ok_iff, pure_eq_ok_iff,
      Nat.max_lt]
    rw [and_assoc, and_and_and_comm, ← exists_decode_iff, ← t.exists_hold_iff hroom,
      ← rest.exists_hold_iff hroom]
    simp

end

mutual

/-- What is sound is grammatical. -/
theorem Tree.Sound.whole : ∀ {t : Tree}, t.Sound → t.Whole
  | .list _, h => Items.Sound.whole h
  | .object _, h => Members.Sound.whole h
  | .null, _ | .bool _, _ | .number _, _ | .text _, _ => trivial

theorem Items.Sound.whole : ∀ {items : Items}, items.Sound → items.Whole
  | .close, _ => trivial
  | .more _ _, ⟨ht, hrest⟩ => ⟨ht.whole, hrest.whole⟩

theorem Members.Sound.whole : ∀ {members : Members}, members.Sound → members.Whole
  | .close, _ => trivial
  | .more _ _ _, ⟨_, ht, hrest⟩ => ⟨ht.whole, hrest.whole⟩

end

/-- A text is sound, and no list or object. -/
theorem Tree.IsText.sound {t : Tree} {s : String} (h : t.IsText s) : t.Sound := by
  obtain ⟨us, rfl, hus⟩ := h
  exact ⟨s.toList, hus⟩

theorem Tree.IsText.depth_eq {t : Tree} {s : String} (h : t.IsText s) : t.depth = 0 := by
  obtain ⟨us, rfl, -⟩ := h
  rfl

/-- A held text. -/
theorem Tree.hold_eq_text_iff {room : Nat} {t : Tree} {s : String} :
    t.hold room = .ok (.text s) ↔ t.IsText s := by
  rw [← Tree.found_eq_text_iff]
  cases t with
  | list items =>
    simp only [Tree.hold, Tree.found, bind_eq_ok_iff, pure_eq_ok_iff]
    simp
  | object members =>
    simp only [Tree.hold, Tree.found, bind_eq_ok_iff, pure_eq_ok_iff]
    simp
  | _ => rfl

/-- Elements are held one by one. -/
theorem Items.hold_eq_readEach (room : Nat) :
    ∀ items : Items, items.hold room = items.readEach (Tree.hold room)
  | .close => rfl
  | .stop _ => rfl
  | .more t rest => by rw [Items.hold, Items.readEach, rest.hold_eq_readEach room]

end Carryover.Json
