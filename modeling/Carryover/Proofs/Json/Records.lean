/-
# What a record says

`Tree.IsRecord keys t ps`: the tree is a record with these fields, and `ps` are the keys and values
that it gives.  As an object it has its members in any order, no field twice, and whatever else
under other keys; as a list it gives the values of the first fields, in the order of the fields.

`Shape.Layout.read_eq_ok_iff`: a record is read into a draft exactly if the draft holds what the
record gives.  What a draft has to be like for that is a `Layout`: one typed slot for each entry,
independent of the others, and nothing besides.  The invariant of reading is `Agrees`: the draft
holds what the members that were read so far say, and nothing else.
-/
import Mathlib.Data.List.Nodup
import Carryover.Proofs.Json.Meaning

namespace Carryover.Json

/-! ## 1. Records -/

/-- The keys and values of members, in order. -/
inductive Members.Say : Members → List (String × Tree) → Prop
  | close : Members.Say .close []
  | more {us : List TextUnit} {key : String} {t : Tree} {rest : Members}
      {ps : List (String × Tree)} (key_eq : StandFor us key.toList) (more : rest.Say ps) :
      Members.Say (.more us t rest) ((key, t) :: ps)

/-- How often a key is among the members. -/
def timesOf {β : Type} (key : String) (ps : List (String × β)) : Nat :=
  (ps.map (·.1)).count key

/-- None of these keys is there twice. -/
def Once {β : Type} (keys : List String) (ps : List (String × β)) : Prop :=
  ∀ key ∈ keys, timesOf key ps ≤ 1

/-- The keys and values that a record gives, for fields with these keys in this order. -/
inductive Tree.IsRecord (keys : List String) : Tree → List (String × Tree) → Prop
  | object {members : Members} {ps : List (String × Tree)} (members_say : members.Say ps)
      (once : Once keys ps) (others : ∀ p ∈ ps, p.1 ∉ keys → p.2.Whole) :
      Tree.IsRecord keys (.object members) ps
  | list {ts : List Tree} (fits : ts.length ≤ keys.length) :
      Tree.IsRecord keys (.list (Items.ofList ts)) (keys.zip ts)

theorem Tree.isRecord_list_iff {keys : List String} {items : Items} {ps : List (String × Tree)} :
    (Tree.list items).IsRecord keys ps ↔
      ∃ ts, items = .ofList ts ∧ ts.length ≤ keys.length ∧ ps = keys.zip ts := by
  constructor
  · intro h
    cases h with
    | list fits => exact ⟨_, rfl, fits, rfl⟩
  · rintro ⟨ts, rfl, fits, rfl⟩
    exact .list fits

/-- A field that has to be given. -/
def Present {α : Type} (Says : Tree → α → Prop) (given : Option Tree) (a : α) : Prop :=
  ∃ t, given = some t ∧ Says t a

/-- A field that may be left out, and then has the default value. -/
def Defaulted {α : Type} (Says : Tree → α → Prop) (default : α) (given : Option Tree) (a : α) :
    Prop :=
  match given with
  | some t => Says t a
  | none => a = default

section Keys

variable {β : Type} {ps qs : List (String × β)} {key other : String} {b : β}

theorem timesOf_append : timesOf key (ps ++ qs) = timesOf key ps + timesOf key qs := by
  unfold timesOf
  rw [List.map_append, List.count_append]

theorem timesOf_cons_self : timesOf key ((key, b) :: ps) = timesOf key ps + 1 := by
  unfold timesOf
  rw [List.map_cons, List.count_cons_self]

theorem timesOf_cons_of_ne (h : other ≠ key) :
    timesOf other ((key, b) :: ps) = timesOf other ps := by
  unfold timesOf
  rw [List.map_cons, List.count_cons_of_ne (Ne.symm h)]

/-- A key that is not found is not there. -/
theorem timesOf_eq_zero_iff : timesOf key ps = 0 ↔ ps.lookup key = none := by
  unfold timesOf
  rw [List.count_eq_zero, List.lookup_eq_none_iff]
  constructor
  · intro h p hp
    exact bne_iff_ne.mpr fun hkey => h (List.mem_map.mpr ⟨p, hp, hkey.symm⟩)
  · intro h hmem
    obtain ⟨p, hp, rfl⟩ := List.mem_map.mp hmem
    exact bne_iff_ne.mp (h p hp) rfl

/-- What is found behind another key, and at the end under a new one. -/
theorem lookup_cons_of_ne (h : other ≠ key) : ((key, b) :: ps).lookup other = ps.lookup other := by
  rw [List.lookup_cons, beq_false_of_ne h]

theorem lookup_concat_self (h : ps.lookup key = none) :
    (ps ++ [(key, b)]).lookup key = some b := by
  rw [List.lookup_append, h, List.lookup_cons_self, Option.none_or]

theorem lookup_concat_of_ne (h : other ≠ key) :
    (ps ++ [(key, b)]).lookup other = ps.lookup other := by
  rw [List.lookup_append, lookup_cons_of_ne h]
  exact Option.or_none

theorem once_nil (keys : List String) : Once keys ([] : List (String × β)) :=
  fun _ _ => Nat.zero_le 1

/-- A new key is there once then. -/
theorem Once.concat_new {keys : List String} (h : Once keys ps) (hnew : ps.lookup key = none) :
    Once keys (ps ++ [(key, b)]) := by
  intro other hother
  rw [timesOf_append]
  by_cases hne : other = key
  · rw [hne, timesOf_eq_zero_iff.mpr hnew, timesOf_cons_self]
    exact Nat.le_refl 1
  · rw [timesOf_cons_of_ne hne]
    exact h other hother

/-- A key that does not matter may be there again. -/
theorem Once.concat_other {keys : List String} (h : Once keys ps) (hkey : key ∉ keys) :
    Once keys (ps ++ [(key, b)]) := by
  intro other hother
  have hne : other ≠ key := fun heq => hkey (heq ▸ hother)
  rw [timesOf_append, timesOf_cons_of_ne hne]
  exact h other hother

/-- A key of which only one more may come is not there yet. -/
theorem Once.lookup_eq_none {keys : List String} (h : Once keys (ps ++ (key, b) :: qs))
    (hkey : key ∈ keys) : ps.lookup key = none := by
  have hle := h key hkey
  rw [timesOf_append, timesOf_cons_self] at hle
  exact timesOf_eq_zero_iff.mp (by omega)

/-- A key that is found and not there twice is there once. -/
theorem timesOf_eq_one_iff {v : β} (h : ps.lookup key = some v) :
    timesOf key ps = 1 ↔ timesOf key ps ≤ 1 := by
  have hne : timesOf key ps ≠ 0 := by
    rw [Ne, timesOf_eq_zero_iff, h]
    exact nofun
  omega

end Keys

/-- Members are held one by one. -/
theorem Members.Say.exists_hold_iff {members : Members} {ps : List (String × Tree)} {room : Nat}
    (h : members.Say ps) :
    (∃ founds, members.hold room = .ok founds) ↔
      ∀ p ∈ ps, ∃ found, p.2.hold room = .ok found := by
  induction h with
  | close => exact ⟨fun _ => nofun, fun _ => ⟨[], rfl⟩⟩
  | @more us key t rest ps hkey _ ih =>
    rw [List.forall_mem_cons, ← ih]
    simp only [Members.hold, decode_eq_ok_iff, bind_eq_ok_iff, pure_eq_ok_iff]
    constructor
    · rintro ⟨_, _, -, found, hfound, founds, hfounds, -⟩
      exact ⟨⟨found, hfound⟩, founds, hfounds⟩
    · rintro ⟨⟨found, hfound⟩, founds, hfounds⟩
      exact ⟨_, key, hkey, found, hfound, founds, hfounds, rfl⟩

/-! ## 2. Drafts -/

/-- One field of a draft: how it is read, and where the draft holds it. -/
structure Slot (δ : Type) where
  Value : Type
  key : String
  read : Tree → Except Problem Value
  get : δ → Option Value
  put : δ → Value → δ

variable {δ : Type}

/-- The entry reads this field. -/
structure Entry.Fills (e : Entry δ) (room : Nat) (slot : Slot δ) : Prop where
  key_eq : e.key = slot.key
  isSet_eq : ∀ d, e.isSet d = (slot.get d).isSome
  set_eq : ∀ t d, e.set room t d = do return slot.put d (← slot.read t)

/-- The draft of a shape is made of these slots, which do not touch each other. -/
structure Shape.Layout (s : Shape δ) (room : Nat) (empty : δ) (slots : List (Slot δ)) : Prop where
  filled : List.Forall₂ (fun e slot => e.Fills room slot) s.entries slots
  keys_differ : (slots.map (·.key)).Nodup
  get_empty : ∀ slot ∈ slots, slot.get empty = none
  get_put : ∀ slot ∈ slots, ∀ d v, slot.get (slot.put d v) = some v
  get_put_other : ∀ a ∈ slots, ∀ b ∈ slots, a.key ≠ b.key → ∀ d v, b.get (a.put d v) = b.get d
  ext : ∀ d d', (∀ slot ∈ slots, slot.get d = slot.get d') → d = d'

/-- The draft holds what the members say, and nothing else. -/
def Agrees (slots : List (Slot δ)) (ps : List (String × Tree)) (d : δ) : Prop :=
  ∀ slot ∈ slots, (ps.lookup slot.key).map slot.read = (slot.get d).map .ok

section Drafts

variable {s : Shape δ} {room : Nat} {empty d d' : δ} {slots : List (Slot δ)}
  {ps qs : List (String × Tree)} {key : String} {t : Tree} {e : Entry δ}

/-- The value of a step that succeeds. -/
theorem map_ok_inj {α : Type} {a b : Option α}
    (h : a.map (Except.ok (ε := Problem)) = b.map .ok) : a = b :=
  Option.map_injective (fun _ _ => Except.ok.inj) h

/-- The key of an entry that is found. -/
theorem Shape.key_of_find? (h : s.entries.find? (·.key == key) = some e) :
    e ∈ s.entries ∧ e.key = key :=
  ⟨List.mem_of_find?_eq_some h, by simpa using List.find?_some h⟩

/-- A key under which no entry is found. -/
theorem Shape.not_mem_keys_of_find? (h : s.entries.find? (·.key == key) = none) :
    key ∉ s.entries.map (·.key) := by
  intro hmem
  obtain ⟨e, he, rfl⟩ := List.mem_map.mp hmem
  exact List.find?_eq_none.mp h e he (beq_self_eq_true _)

namespace Shape.Layout

/-- Each entry has its slot. -/
theorem exists_slot (h : s.Layout room empty slots) (he : e ∈ s.entries) :
    ∃ slot ∈ slots, e.Fills room slot := by
  obtain ⟨i, hi, rfl⟩ := List.getElem_of_mem he
  have hi' : i < slots.length := h.filled.length_eq ▸ hi
  exact ⟨slots[i], List.getElem_mem hi', h.filled.get hi hi'⟩

/-- The keys of the entries are the keys of the slots. -/
theorem keys_eq (h : s.Layout room empty slots) :
    s.entries.map (·.key) = slots.map (·.key) := by
  refine List.forall₂_eq_eq_eq ▸ List.forall₂_map_left_iff.mpr (List.forall₂_map_right_iff.mpr ?_)
  exact h.filled.imp fun e slot hfills => hfills.key_eq

/-- Nothing is held where nothing was said. -/
theorem agrees_empty (h : s.Layout room empty slots) : Agrees slots [] empty := by
  intro slot hslot
  rw [h.get_empty slot hslot]
  rfl

/-- There is one draft for what was said. -/
theorem agrees_unique (h : s.Layout room empty slots) (hd : Agrees slots ps d)
    (hd' : Agrees slots ps d') : d = d' :=
  h.ext d d' fun slot hslot => map_ok_inj ((hd slot hslot).symm.trans (hd' slot hslot))

/-- A key of no field does not matter. -/
theorem agrees_concat_unknown (h : s.Layout room empty slots)
    (hkey : key ∉ s.entries.map (·.key)) (hd : Agrees slots ps d) :
    Agrees slots (ps ++ [(key, t)]) d := by
  intro slot hslot
  have hne : slot.key ≠ key := by
    rintro rfl
    rw [h.keys_eq] at hkey
    exact hkey (List.mem_map_of_mem hslot)
  rw [lookup_concat_of_ne hne]
  exact hd slot hslot

/-- An entry is set if its key was there. -/
theorem isSet_eq (h : s.Layout room empty slots) (he : e ∈ s.entries) (hd : Agrees slots ps d) :
    e.isSet d = (ps.lookup e.key).isSome := by
  obtain ⟨slot, hslot, hfills⟩ := h.exists_slot he
  have hheld := congrArg Option.isSome (hd slot hslot)
  rw [Option.isSome_map, Option.isSome_map] at hheld
  rw [hfills.isSet_eq, hfills.key_eq, hheld]

/-- **What an entry reads is what its slot holds then**, and the other slots hold what they held. -/
theorem set_eq_ok_iff (h : s.Layout room empty slots) (he : e ∈ s.entries)
    (hd : Agrees slots ps d) (hnew : ps.lookup e.key = none) :
    e.set room t d = .ok d' ↔ Agrees slots (ps ++ [(e.key, t)]) d' := by
  obtain ⟨slot, hslot, hfills⟩ := h.exists_slot he
  rw [hfills.key_eq] at hnew ⊢
  simp only [hfills.set_eq, bind_eq_ok_iff, pure_eq_ok_iff]
  constructor
  · rintro ⟨v, hv, rfl⟩ other hother
    by_cases hkey : other.key = slot.key
    · obtain rfl := List.inj_on_of_nodup_map h.keys_differ hother hslot hkey
      rw [lookup_concat_self hnew, h.get_put other hother, Option.map_some, hv]
      rfl
    · rw [lookup_concat_of_ne hkey, h.get_put_other slot hslot other hother (Ne.symm hkey)]
      exact hd other hother
  · intro hd'
    have hslot' := hd' slot hslot
    rw [lookup_concat_self hnew, Option.map_some] at hslot'
    obtain ⟨v, hv, hread⟩ := Option.map_eq_some_iff.mp hslot'.symm
    refine ⟨v, hread.symm, h.ext _ _ fun other hother => ?_⟩
    by_cases hkey : other.key = slot.key
    · obtain rfl := List.inj_on_of_nodup_map h.keys_differ hother hslot hkey
      rw [h.get_put other hother, hv]
    · have hother' := hd' other hother
      rw [lookup_concat_of_ne hkey] at hother'
      rw [h.get_put_other slot hslot other hother (Ne.symm hkey)]
      exact map_ok_inj ((hd other hother).symm.trans hother')

/-- What a draft holds in the end could be read where it stood. -/
theorem exists_set (h : s.Layout room empty slots) (he : e ∈ s.entries)
    (hnew : ps.lookup e.key = none) (hd' : Agrees slots (ps ++ (e.key, t) :: qs) d') :
    ∃ d'', e.set room t d = .ok d'' := by
  obtain ⟨slot, hslot, hfills⟩ := h.exists_slot he
  have hslot' := hd' slot hslot
  rw [← hfills.key_eq, List.lookup_append, hnew, List.lookup_cons_self] at hslot'
  obtain ⟨v, -, hread⟩ := Option.map_eq_some_iff.mp hslot'.symm
  refine ⟨slot.put d v, ?_⟩
  rw [hfills.set_eq, ← hread]
  rfl

/-! ## 3. Objects -/

/-- **Members are read into a draft** exactly if no known key is there twice, all that is under
other keys is grammatical, and the draft holds what they say. -/
theorem readMembers_eq_ok_iff (h : s.Layout room empty slots) :
    ∀ {members : Members} {ps : List (String × Tree)} {d d' : δ}, Agrees slots ps d →
      Once (s.entries.map (·.key)) ps →
      (s.readMembers room members d = .ok d' ↔
        ∃ qs, members.Say qs ∧ Once (s.entries.map (·.key)) (ps ++ qs) ∧
          (∀ q ∈ qs, q.1 ∉ s.entries.map (·.key) → q.2.Whole) ∧ Agrees slots (ps ++ qs) d')
  | .close, ps, d, d', hd, honce => by
    constructor
    · intro hread
      obtain rfl := Except.ok.inj hread
      rw [← List.append_nil ps] at hd honce
      exact ⟨[], .close, honce, List.forall_mem_nil _, hd⟩
    · rintro ⟨qs, hsay, -, -, hd'⟩
      cases hsay
      rw [List.append_nil] at hd'
      exact congrArg Except.ok (h.agrees_unique hd hd')
  | .stop f, ps, d, d', hd, honce => by
    constructor
    · intro hread
      cases hread
    · rintro ⟨_, hsay, -⟩
      cases hsay
  | .more us t rest, ps, d, d', hd, honce => by
    simp only [readMembers, bind_eq_ok_iff, decode_eq_ok_iff]
    constructor
    · rintro ⟨key, hkey, hread⟩
      split at hread
      · next e hfind =>
        obtain ⟨he, rfl⟩ := key_of_find? hfind
        split at hread
        · cases hread
        · next hset =>
          rw [h.isSet_eq he hd, Option.not_isSome_iff_eq_none] at hset
          obtain ⟨d₁, hd₁, hrest⟩ := bind_eq_ok_iff.mp hread
          have hnext := (h.set_eq_ok_iff he hd hset).mp hd₁
          obtain ⟨qs, hsay, honce, hothers, hd'⟩ :=
            (h.readMembers_eq_ok_iff hnext (honce.concat_new hset)).mp hrest
          rw [← List.append_cons] at honce hd'
          refine ⟨(e.key, t) :: qs, .more hkey hsay, honce, ?_, hd'⟩
          refine List.forall_mem_cons.mpr ⟨fun hunknown => ?_, hothers⟩
          exact absurd (List.mem_map_of_mem he) hunknown
      · next hfind =>
        have hunknown : key ∉ s.entries.map (·.key) := not_mem_keys_of_find? hfind
        obtain ⟨_, hskip, hrest⟩ := bind_eq_ok_iff.mp hread
        obtain ⟨qs, hsay, honce, hothers, hd'⟩ := (h.readMembers_eq_ok_iff
          (h.agrees_concat_unknown hunknown hd) (honce.concat_other hunknown)).mp hrest
        rw [← List.append_cons] at honce hd'
        exact ⟨(key, t) :: qs, .more hkey hsay, honce,
          List.forall_mem_cons.mpr ⟨fun _ => t.skip_eq_ok_iff.mp hskip, hothers⟩, hd'⟩
    · rintro ⟨_, hsay, hall, hothers, hd'⟩
      cases hsay with
      | @more _ key _ _ qs hkey hsay =>
      obtain ⟨hfirst, hmore⟩ := List.forall_mem_cons.mp hothers
      refine ⟨key, hkey, ?_⟩
      split
      · next e hfind =>
        obtain ⟨he, rfl⟩ := key_of_find? hfind
        have hnew := hall.lookup_eq_none (List.mem_map_of_mem he)
        obtain ⟨d₁, hd₁⟩ := h.exists_set (d := d) he hnew hd'
        have hnext := (h.set_eq_ok_iff he hd hnew).mp hd₁
        rw [List.append_cons] at hall hd'
        rw [if_neg (by rw [h.isSet_eq he hd, hnew]; exact Bool.false_ne_true)]
        refine bind_eq_ok_iff.mpr ⟨d₁, hd₁, ?_⟩
        exact (h.readMembers_eq_ok_iff hnext (honce.concat_new hnew)).mpr
          ⟨qs, hsay, hall, hmore, hd'⟩
      · next hfind =>
        have hunknown : key ∉ s.entries.map (·.key) := not_mem_keys_of_find? hfind
        rw [List.append_cons] at hall hd'
        refine bind_eq_ok_iff.mpr ⟨⟨⟩, t.skip_eq_ok_iff.mpr (hfirst hunknown), ?_⟩
        exact (h.readMembers_eq_ok_iff (h.agrees_concat_unknown hunknown hd)
          (honce.concat_other hunknown)).mpr ⟨qs, hsay, hall, hmore, hd'⟩

/-! ## 4. Lists -/

/-- A list may end behind the last field, and nowhere else. -/
theorem readEnd_eq_ok_iff {items : Items} : readEnd items = .ok () ↔ items = .close := by
  unfold readEnd
  split
  · simp
  · simp
  · simp
  · next hne _ _ => simpa using hne

/-- Fields that are left out are not missing if none of them is required. -/
theorem checkMissing_eq_ok {es : List (Entry δ)} (h : ∀ e ∈ es, e.isRequired = false)
    (index : Nat) : s.checkMissing index es = .ok () := by
  induction es generalizing index with
  | nil => rfl
  | cons e es ih =>
    obtain ⟨he, hes⟩ := List.forall_mem_cons.mp h
    rw [checkMissing, he]
    exact ih hes (index + 1)

/-- **Elements are read into a draft** in the order of the fields, if the draft has all that is
required in the end. -/
theorem readItems_eq_ok_iff (h : s.Layout room empty slots)
    (hrequired : ∀ e ∈ s.entries, e.isRequired = true → e.isSet d' = true) :
    ∀ {es : List (Entry δ)} {items : Items} {index : Nat} {ps : List (String × Tree)} {d : δ},
      (∀ e ∈ es, e ∈ s.entries ∧ ps.lookup e.key = none) → (es.map (·.key)).Nodup →
      Agrees slots ps d →
      (s.readItems room index es items d = .ok d' ↔
        ∃ ts, items = .ofList ts ∧ ts.length ≤ es.length ∧
          Agrees slots (ps ++ (es.map (·.key)).zip ts) d')
  | [], items, index, ps, d, _, _, hd => by
    simp only [readItems, bind_eq_ok_iff, pure_eq_ok_iff]
    constructor
    · rintro ⟨⟨⟩, hend, rfl⟩
      exact ⟨[], readEnd_eq_ok_iff.mp hend, Nat.le_refl 0, by simpa using hd⟩
    · rintro ⟨ts, rfl, hfits, hd'⟩
      obtain rfl := List.eq_nil_of_length_eq_zero (Nat.le_zero.mp hfits)
      rw [List.zip_nil_right, List.append_nil] at hd'
      exact ⟨⟨⟩, readEnd_eq_ok_iff.mpr rfl, h.agrees_unique hd hd'⟩
  | e :: es, .close, index, ps, d, hes, hdiffer, hd => by
    simp only [readItems, bind_eq_ok_iff, pure_eq_ok_iff]
    constructor
    · rintro ⟨-, -, rfl⟩
      exact ⟨[], rfl, Nat.zero_le _, by simpa using hd⟩
    · rintro ⟨_ | ⟨t, ts⟩, hts, -, hd'⟩
      · rw [List.zip_nil_right, List.append_nil] at hd'
        refine ⟨⟨⟩, checkMissing_eq_ok (fun missing hmissing => ?_) index, h.agrees_unique hd hd'⟩
        -- A required field would be in the draft, but nothing was said of the remaining ones.
        obtain ⟨hentry, hnone⟩ := hes missing hmissing
        have hset := h.isSet_eq hentry hd'
        rw [hnone] at hset
        by_contra hreq
        rw [hrequired missing hentry (eq_true_of_ne_false hreq)] at hset
        cases hset
      · cases hts
  | e :: es, .stop f, index, ps, d, hes, hdiffer, hd => by
    constructor
    · intro hread
      cases hread
    · rintro ⟨_ | ⟨t, ts⟩, hts, -⟩
      all_goals cases hts
  | e :: es, .more t rest, index, ps, d, hes, hdiffer, hd => by
    obtain ⟨⟨he, hnew⟩, hmore⟩ := List.forall_mem_cons.mp hes
    obtain ⟨hother, hdiffer⟩ := List.nodup_cons.mp hdiffer
    have hes' : ∀ e' ∈ es, e' ∈ s.entries ∧ (ps ++ [(e.key, t)]).lookup e'.key = none := by
      intro e' he'
      have hne : e'.key ≠ e.key := fun hkey => hother (List.mem_map.mpr ⟨e', he', hkey⟩)
      rw [lookup_concat_of_ne hne]
      exact hmore e' he'
    simp only [readItems, bind_eq_ok_iff]
    constructor
    · rintro ⟨d₁, hd₁, hrest⟩
      obtain ⟨ts, rfl, hfits, hd'⟩ := (h.readItems_eq_ok_iff hrequired hes' hdiffer
        ((h.set_eq_ok_iff he hd hnew).mp hd₁)).mp hrest
      rw [← List.append_cons] at hd'
      exact ⟨t :: ts, rfl, Nat.succ_le_succ hfits, hd'⟩
    · rintro ⟨_ | ⟨t', ts⟩, hts, hfits, hd'⟩
      · cases hts
      · obtain ⟨rfl, rfl⟩ := Items.more.inj hts
        rw [List.map_cons, List.zip_cons_cons] at hd'
        obtain ⟨d₁, hd₁⟩ := h.exists_set (d := d) he hnew hd'
        rw [List.append_cons] at hd'
        exact ⟨d₁, hd₁, (h.readItems_eq_ok_iff hrequired hes' hdiffer
          ((h.set_eq_ok_iff he hd hnew).mp hd₁)).mpr
            ⟨ts, rfl, Nat.le_of_succ_le_succ hfits, hd'⟩⟩

/-! ## 5. Records as a whole -/

/-- **A record is read into a draft** exactly if the draft holds what the record gives. -/
theorem read_eq_ok_iff (h : s.Layout (room - 1) empty slots) (hroom : 1 < room)
    (hrequired : ∀ e ∈ s.entries, e.isRequired = true → e.isSet d' = true) :
    s.read empty room t = .ok d' ↔
      ∃ ps, t.IsRecord (s.entries.map (·.key)) ps ∧ Agrees slots ps d' := by
  cases t with
  | object members =>
    simp only [read, bind_eq_ok_iff, enter_eq_ok_iff]
    constructor
    · rintro ⟨_, ⟨-, rfl⟩, hread⟩
      obtain ⟨ps, hsay, honce, hothers, hd'⟩ :=
        (h.readMembers_eq_ok_iff h.agrees_empty (once_nil _)).mp hread
      exact ⟨ps, .object hsay honce hothers, hd'⟩
    · rintro ⟨ps, hrecord, hd'⟩
      cases hrecord with
      | object hsay honce hothers =>
      refine ⟨_, ⟨hroom, rfl⟩, ?_⟩
      exact (h.readMembers_eq_ok_iff h.agrees_empty (once_nil _)).mpr
        ⟨ps, hsay, honce, hothers, hd'⟩
  | list items =>
    have hentries : ∀ e ∈ s.entries,
        e ∈ s.entries ∧ ([] : List (String × Tree)).lookup e.key = none :=
      fun e he => ⟨he, rfl⟩
    have hdiffer : (s.entries.map (·.key)).Nodup := h.keys_eq ▸ h.keys_differ
    simp only [read, bind_eq_ok_iff, enter_eq_ok_iff]
    constructor
    · rintro ⟨_, ⟨-, rfl⟩, hread⟩
      obtain ⟨ts, rfl, hfits, hd'⟩ :=
        (h.readItems_eq_ok_iff hrequired hentries hdiffer h.agrees_empty).mp hread
      exact ⟨_, .list (by rwa [List.length_map]), hd'⟩
    · rintro ⟨_, hrecord, hd'⟩
      cases hrecord with
      | @list ts hfits =>
      rw [List.length_map] at hfits
      exact ⟨_, ⟨hroom, rfl⟩,
        (h.readItems_eq_ok_iff hrequired hentries hdiffer h.agrees_empty).mpr ⟨ts, rfl, hfits, hd'⟩⟩
  | _ =>
    simp only [read, bind_eq_ok_iff, Found.isNot]
    constructor
    · rintro ⟨_, -, h⟩
      cases h
    · rintro ⟨_, hrecord, -⟩
      cases hrecord

/-- **A record is read** exactly if a draft of what it gives can be finished.  Finishing is what
asks for the required fields. -/
theorem read_bind_eq_ok_iff {α : Type} {finish : δ → Except Problem α} {a : α}
    (h : s.Layout (room - 1) empty slots) (hroom : 1 < room)
    (hfinish : ∀ d, finish d = .ok a →
      ∀ e ∈ s.entries, e.isRequired = true → e.isSet d = true) :
    (s.read empty room t >>= finish) = .ok a ↔
      ∃ ps, t.IsRecord (s.entries.map (·.key)) ps ∧ ∃ d, Agrees slots ps d ∧ finish d = .ok a := by
  rw [bind_eq_ok_iff]
  constructor
  · rintro ⟨d, hread, hd⟩
    obtain ⟨ps, hrecord, hagrees⟩ := (h.read_eq_ok_iff hroom (hfinish d hd)).mp hread
    exact ⟨ps, hrecord, d, hagrees, hd⟩
  · rintro ⟨ps, hrecord, d, hagrees, hd⟩
    exact ⟨d, (h.read_eq_ok_iff hroom (hfinish d hd)).mpr ⟨ps, hrecord, hagrees⟩, hd⟩

end Shape.Layout

end Drafts

/-! ## 6. Fields -/

section Fields

variable {α : Type} {Says : Tree → α → Prop} {read : Tree → Except Problem α} {given : Option Tree}

/-- A field that has to be given is in the draft. -/
theorem exists_held_iff_present (hread : ∀ t a, read t = .ok a ↔ Says t a) {a : α} :
    (∃ held : Option α, given.map read = held.map .ok ∧ held = some a) ↔ Present Says given a := by
  rw [exists_eq_right]
  cases given with
  | none => simp [Present]
  | some t => simp [Present, hread]

/-- A field that may be left out is in the draft, or else has the default value. -/
theorem exists_held_iff_defaulted (hread : ∀ t a, read t = .ok a ↔ Says t a) {default a : α} :
    (∃ held : Option α, given.map read = held.map .ok ∧ held.getD default = a) ↔
      Defaulted Says default given a := by
  cases given with
  | none =>
    constructor
    · rintro ⟨_ | v, hheld, rfl⟩
      · rfl
      · cases hheld
    · rintro rfl
      exact ⟨none, rfl, rfl⟩
  | some t =>
    constructor
    · rintro ⟨_ | v, hheld, rfl⟩
      · cases hheld
      · exact (hread t v).mp (Option.some.inj hheld)
    · intro hsays
      exact ⟨some a, congrArg some ((hread t a).mpr hsays), rfl⟩

end Fields

/-- A field that has to be in the draft. -/
theorem orMissing_eq_ok_iff {α : Type} {key : String} {held : Option α} {a : α} :
    orMissing key held = .ok a ↔ held = some a := by
  cases held <;> simp [orMissing]

/-- A whole document is read if its value is, and nothing is behind it. -/
theorem Document.readAs_eq_ok_iff {α : Type} {read : Reader α} {d : Document} {a : α} :
    d.readAs read = .ok a ↔ d.ending = .clean ∧ read maxNesting d.root = .ok a := by
  unfold readAs
  rw [bind_eq_ok_iff]
  cases d.ending with
  | clean => simp [pure_eq_ok_iff]
  | _ => simp

end Carryover.Json
