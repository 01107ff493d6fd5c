/-
# Trees are read as they are written

`Document.read_print`: the text of a tree is a clean document with this tree, if the tree is
complete, holds no number, and its texts are legible (`Tree.Legible`).

What is written for such a tree is one of its spellings, the one without white space and with short
escapes only.  That is shown by recursion on the tree (`Tree.Legible.spelled_print`), with something
that follows; the reader accepts it as it accepts any spelling.
-/
import Carryover.Proofs.Json.Accepted

namespace Carryover.Json

/-! ## 1. Trees that can be written -/

mutual

/-- Can the value be written so that it is read again? -/
def Tree.Legible : Tree → Prop
  | .null => True
  | .bool _ => True
  | .number _ => False
  | .text us => ∀ u ∈ us, u.Legible
  | .list items => items.Legible
  | .object members => members.Legible
  | .fault _ => False

/-- Can all elements be written, and is their end reached? -/
def Items.Legible : Items → Prop
  | .close => True
  | .more t rest => t.Legible ∧ rest.Legible
  | .stop _ => False

/-- Can all members be written, and is their end reached? -/
def Members.Legible : Members → Prop
  | .close => True
  | .more key value rest => (∀ u ∈ key, u.Legible) ∧ value.Legible ∧ rest.Legible
  | .stop _ => False

end

/-- The text of a string is legible. -/
theorem Tree.legible_ofString (s : String) : (Tree.ofString s).Legible :=
  legible_encode s

/-- A list is legible with its elements. -/
theorem Items.legible_ofList {ts : List Tree} (h : ∀ t ∈ ts, t.Legible) :
    (Items.ofList ts).Legible := by
  induction ts with
  | nil => trivial
  | cons t ts ih =>
    obtain ⟨ht, hts⟩ := List.forall_mem_cons.mp h
    exact ⟨ht, ih hts⟩

/-- A list of values is legible if each value is. -/
theorem Tree.legible_ofValues {α : Type} {toTree : α → Tree} {values : List α}
    (h : ∀ v ∈ values, (toTree v).Legible) : (Tree.ofValues toTree values).Legible :=
  Items.legible_ofList (List.forall_mem_map.mpr h)

/-- An object is legible with the values of its members. -/
theorem Tree.legible_ofPairs {members : List (String × Tree)}
    (h : ∀ m ∈ members, m.2.Legible) : (Tree.ofPairs members).Legible := by
  show (Members.ofList _).Legible
  induction members with
  | nil => trivial
  | cons m members ih =>
    obtain ⟨hm, hmembers⟩ := List.forall_mem_cons.mp h
    exact ⟨legible_encode m.1, hm, ih hmembers⟩

/-! ## 2. What a writer puts down -/

/-- The symbols of a text in two parts. -/
theorem symbols_append (cs ds : List Char) : symbols (cs ++ ds) = symbols cs ++ symbols ds :=
  List.map_append

/-- The last element and the end of the list. -/
theorem Items.print_last (t : Tree) : (Items.more t .close).print true = t.print ++ [']'] :=
  rfl

/-- An element before others. -/
theorem Items.print_more (t t' : Tree) (items : Items) :
    (Items.more t (.more t' items)).print true
      = t.print ++ ',' :: (Items.more t' items).print true := by
  simp [Items.print]

/-- The last member and the end of the object. -/
theorem Members.print_last (key : List TextUnit) (value : Tree) :
    (Members.more key value .close).print true
      = printText key ++ ':' :: (value.print ++ ['\x7d']) :=
  rfl

/-- A member before others. -/
theorem Members.print_more (key key' : List TextUnit) (value value' : Tree) (members : Members) :
    (Members.more key value (.more key' value' members)).print true
      = printText key ++ ':' ::
        (value.print ++ ',' :: (Members.more key' value' members).print true) := by
  simp [Members.print]

/-! ## 3. Texts -/

/-- The digits of a unit spell the unit. -/
theorem hexUnit_digits (n : UInt16) :
    hexUnit ⟨n.toNat / 4096 % 16, Nat.mod_lt _ (by decide)⟩
      ⟨n.toNat / 256 % 16, Nat.mod_lt _ (by decide)⟩
      ⟨n.toNat / 16 % 16, Nat.mod_lt _ (by decide)⟩
      ⟨n.toNat % 16, Nat.mod_lt _ (by decide)⟩ = n := by
  have hbound : n.toNat < 65536 := n.toNat_lt
  have hvalue : ((n.toNat / 4096 % 16 * 16 + n.toNat / 256 % 16) * 16 + n.toNat / 16 % 16) * 16
      + n.toNat % 16 = n.toNat := by omega
  unfold hexUnit
  rw [hvalue, UInt16.ofNat_toNat]

/-- A written unit is spelled in front of the others. -/
theorem TextSpelled.print_unit {u : TextUnit} {us : List TextUnit} {s rest : List Symbol}
    (h : u.Legible) (more : TextSpelled us s rest) :
    TextSpelled (u :: us) (symbols u.print ++ s) rest := by
  cases u with
  | plain c => exact .plain h more
  | stray b => exact h.elim
  | short e => exact .short more
  | hex n => exact .hex (hexUnit_digits n) (.inl rfl) (.inl rfl) (.inl rfl) (.inl rfl) more

/-- **A written text is spelled**, up to its closing quote. -/
theorem textSpelled_print {us : List TextUnit} (h : ∀ u ∈ us, u.Legible) (rest : List Symbol) :
    TextSpelled us (symbols (us.flatMap TextUnit.print) ++ .char '"' :: rest) rest := by
  induction us with
  | nil => exact .close rest
  | cons u us ih =>
    obtain ⟨hu, hus⟩ := List.forall_mem_cons.mp h
    rw [List.flatMap_cons, symbols_append, List.append_assoc]
    exact (ih hus).print_unit hu

/-- A written text begins with a quote. -/
theorem symbols_printText (us : List TextUnit) (s : List Symbol) :
    symbols (printText us) ++ s =
      .char '"' :: (symbols (us.flatMap TextUnit.print) ++ .char '"' :: s) := by
  simp [symbols, printText]

/-- A written member is spelled. -/
theorem Member.Spelled.print {key : List TextUnit} {value : Tree} {s rest : List Symbol}
    (h : ∀ u ∈ key, u.Legible) (hvalue : value.Spelled s rest) :
    Member.Spelled key value (symbols (printText key) ++ .char ':' :: s) rest := by
  rw [symbols_printText]
  exact ⟨blank_refl _, textSpelled_print h _, blank_refl _, hvalue⟩

/-! ## 4. Values -/

mutual

/-- **A written value is spelled**, and what follows it is left. -/
theorem Tree.spelled_print : ∀ t : Tree, t.Legible → ∀ rest : List Symbol,
    t.Spelled (symbols t.print ++ rest) rest
  | .null, _, _ => .null (blank_refl _)
  | .bool true, _, _ => .true (blank_refl _)
  | .bool false, _, _ => .false (blank_refl _)
  | .text us, h, rest => by
    show Tree.Spelled _ (symbols (printText us) ++ rest) rest
    rw [symbols_printText]
    exact .text (blank_refl _) (textSpelled_print h rest)
  | .list .close, _, _ => .noItems (blank_refl _) (blank_refl _)
  | .list (.more t items), h, rest =>
    .list (blank_refl _) (Items.spelled_print (.more t items) h nofun rest)
  | .object .close, _, _ => .noMembers (blank_refl _) (blank_refl _)
  | .object (.more key value members), h, rest =>
    .object (blank_refl _) (Members.spelled_print (.more key value members) h nofun rest)

/-- Written elements are spelled up to the end of their list. -/
theorem Items.spelled_print : ∀ items : Items, items.Legible → items ≠ .close →
    ∀ rest : List Symbol, items.Spelled (symbols (items.print true) ++ rest) rest
  | .close, _, hne, _ => absurd rfl hne
  | .more t .close, h, _, rest => by
    rw [Items.print_last, symbols_append, List.append_assoc]
    exact .last (t.spelled_print h.1 _) (blank_refl _)
  | .more t (.more t' items), h, _, rest => by
    rw [Items.print_more, symbols_append, List.append_assoc]
    exact .more (t.spelled_print h.1 _) (blank_refl _)
      (Items.spelled_print (.more t' items) h.2 nofun rest)
  | .more _ (.stop _), h, _, _ => h.2.elim

/-- Written members are spelled up to the end of their object. -/
theorem Members.spelled_print : ∀ members : Members, members.Legible → members ≠ .close →
    ∀ rest : List Symbol, members.Spelled (symbols (members.print true) ++ rest) rest
  | .close, _, hne, _ => absurd rfl hne
  | .more key value .close, h, _, rest => by
    rw [Members.print_last, symbols_append, List.append_assoc]
    have hvalue := value.spelled_print h.2.1 (.char '\x7d' :: rest)
    have hmember := Member.Spelled.print h.1 hvalue
    exact .last (by simpa [symbols] using hmember) (blank_refl _)
  | .more key value (.more key' value' members), h, _, rest => by
    have hmembers := Members.spelled_print (.more key' value' members) h.2.2 nofun rest
    have hmember := Member.Spelled.print h.1 (value.spelled_print h.2.1 (.char ',' ::
      (symbols ((Members.more key' value' members).print true) ++ rest)))
    rw [Members.print_more]
    exact .more (by simpa [symbols] using hmember) (blank_refl _) hmembers
  | .more _ _ (.stop _), h, _, _ => h.2.2.elim

end

/-- **The text of a legible tree is a clean document with this tree.** -/
theorem Document.read_print {t : Tree} (h : t.Legible) :
    Document.read (symbols t.print) = ⟨t, .clean⟩ := by
  have hspelled := t.spelled_print h []
  rw [List.append_nil] at hspelled
  exact Document.read_eq_clean_iff.mpr ⟨[], hspelled, blank_refl []⟩

end Carryover.Json
