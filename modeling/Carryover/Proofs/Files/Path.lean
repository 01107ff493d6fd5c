/-
# The way to a name in a folder

`way_join` and `isRooted_join`: the path one name further begins where the path began, and leads one
step further, however the path was written: empty, with a slash at its end, or without one.  The
name must be one (`IsName`), that is not empty, not a dot or two, and without a slash.

The text of the longer path is cut into pieces again, so what is shown first is how a cut goes on
behind a separator (`split_append_cons`).
-/
import Mathlib.Data.List.Basic
import Carryover.Files.Path

namespace Carryover

/-! ## 1. Cutting longer texts -/

namespace Text

variable {sep : Char → Bool}

/-- A text is cut into one part at least. -/
theorem split_ne_nil (cs : List Char) : split sep cs ≠ [] := by
  cases cs with
  | nil => exact List.cons_ne_nil _ _
  | cons c cs =>
    unfold split
    split
    · exact List.cons_ne_nil _ _
    · split <;> exact List.cons_ne_nil _ _

/-- Behind a separator the cut begins anew. -/
theorem split_append_cons {s : Char} (hs : sep s = true) (as bs : List Char) :
    split sep (as ++ s :: bs) = split sep as ++ split sep bs := by
  induction as with
  | nil => simp [split, hs]
  | cons a as ih =>
    rw [List.cons_append, split, split, ih]
    by_cases ha : sep a = true
    · rw [if_pos ha, if_pos ha, List.cons_append]
    · rw [if_neg ha, if_neg ha]
      have hne : split sep as ≠ [] := split_ne_nil as
      obtain ⟨part, parts, hparts⟩ := List.exists_cons_of_ne_nil hne
      rw [hparts]
      rfl

/-- A text without separators is one part. -/
theorem split_of_forall_not {cs : List Char} (h : ∀ c ∈ cs, sep c = false) :
    split sep cs = [cs] := by
  induction cs with
  | nil => rfl
  | cons c cs ih =>
    obtain ⟨hc, hcs⟩ := List.forall_mem_cons.mp h
    simp [split, hc, ih hcs]

end Text

namespace Files

/-! ## 2. Names -/

/-- What can be the name of a file or a folder. -/
structure IsName (name : String) : Prop where
  nonempty : name ≠ ""
  no_slash : ∀ c ∈ name.toList, c ≠ '/'
  not_here : name ≠ "."
  not_up : name ≠ ".."

/-- The part of a path that a name is. -/
theorem IsName.ofText {name : String} (h : IsName name) : Part.ofText name = .name name := by
  unfold Part.ofText
  rw [if_neg h.not_here, if_neg h.not_up]

namespace Path

/-! ## 3. The path one name further -/

/-- The way that characters spell. -/
def wayOf (cs : List Char) : List Part :=
  (((Text.split (· == '/') cs).map String.ofList).filter (· ≠ "")).map Part.ofText

/-- The way of a path is spelled by its text. -/
theorem way_eq (p : Path) : p.way = wayOf p.text.toList :=
  rfl

/-- Behind a slash the way goes on. -/
theorem wayOf_append_cons (as bs : List Char) :
    wayOf (as ++ '/' :: bs) = wayOf as ++ wayOf bs := by
  unfold wayOf
  rw [Text.split_append_cons (by decide), List.map_append, List.filter_append, List.map_append]

/-- A name is one step. -/
theorem wayOf_name {name : String} (h : IsName name) : wayOf name.toList = [.name name] := by
  unfold wayOf
  rw [Text.split_of_forall_not (by simpa using h.no_slash)]
  simp [h.nonempty, h.ofText]

/-- A path that ends in a slash has something in front of it. -/
theorem exists_of_endsWith {p : Path} (h : p.text.endsWith "/" = true) :
    ∃ cs, p.text.toList = cs ++ ['/'] := by
  have hsuffix : "/".toList <:+ p.text.toList := by
    simpa using String.Slice.endsWith_string_iff.mp h
  obtain ⟨cs, hcs⟩ := hsuffix
  exact ⟨cs, hcs.symm⟩

/-- A path leads from the outermost folder if a slash is its first character. -/
theorem isRooted_iff (p : Path) : p.isRooted = true ↔ p.text.toList.head? = some '/' := by
  unfold isRooted
  rw [String.startsWith_string_iff]
  show ['/'] <+: _ ↔ _
  cases p.text.toList with
  | nil => simp
  | cons c cs => simp [eq_comm]

/-- The characters of the path one name further: those of the path, a slash if there is none yet
between the two, and those of the name. -/
theorem toList_join (p : Path) (name : String) :
    (p.text = "" ∧ (p.join name).text.toList = name.toList) ∨
    (∃ cs, p.text.toList = cs ++ ['/'] ∧
      (p.join name).text.toList = cs ++ '/' :: name.toList) ∨
    (p.text ≠ "" ∧ (p.join name).text.toList = p.text.toList ++ '/' :: name.toList) := by
  unfold join
  split
  case isTrue hempty => exact .inl ⟨hempty, rfl⟩
  case isFalse hempty =>
    split
    case isTrue hslash =>
      obtain ⟨cs, hcs⟩ := exists_of_endsWith hslash
      exact .inr (.inl ⟨cs, hcs, by simp [hcs]⟩)
    case isFalse hslash => exact .inr (.inr ⟨hempty, by simp⟩)

/-- **A name further, a step further.** -/
theorem way_join (p : Path) {name : String} (h : IsName name) :
    (p.join name).way = p.way ++ [.name name] := by
  have hnothing : wayOf [] = [] := rfl
  rw [way_eq, way_eq, ← wayOf_name h]
  rcases p.toList_join name with ⟨hempty, hjoin⟩ | ⟨cs, hp, hjoin⟩ | ⟨-, hjoin⟩
  · rw [hjoin, hempty]
    rfl
  · rw [hjoin, hp, wayOf_append_cons, wayOf_append_cons, hnothing, List.append_nil]
  · rw [hjoin, wayOf_append_cons]

/-- The path one name further ends in the name. -/
theorem getLast?_join (p : Path) {name : String} (h : IsName name) :
    (p.join name).text.toList.getLast? = name.toList.getLast? := by
  have hne : name.toList ≠ [] := by simpa using h.nonempty
  rcases p.toList_join name with ⟨-, hjoin⟩ | ⟨cs, -, hjoin⟩ | ⟨-, hjoin⟩
  · rw [hjoin]
  all_goals rw [hjoin, List.append_cons, List.getLast?_append_of_ne_nil _ hne]

/-- It does not end in a slash, so it has no step more than its way. -/
theorem steps_join (p : Path) {name : String} (h : IsName name) :
    (p.join name).steps = p.way ++ [.name name] := by
  have hend : (p.join name).text.endsWith "/" = false := by
    rw [← Bool.not_eq_true]
    intro hslash
    obtain ⟨cs, hcs⟩ := exists_of_endsWith hslash
    have hlast : name.toList.getLast? = some '/' := by
      rw [← p.getLast?_join h, hcs, List.getLast?_concat]
    exact h.no_slash '/' (List.mem_of_getLast? hlast) rfl
  unfold steps
  rw [way_join p h, hend]
  exact List.append_nil _

/-- **A name further, and still from the same folder.** -/
theorem isRooted_join (p : Path) {name : String} (h : IsName name) :
    (p.join name).isRooted = p.isRooted := by
  rw [Bool.eq_iff_iff, isRooted_iff, isRooted_iff]
  rcases p.toList_join name with ⟨hempty, hjoin⟩ | ⟨cs, hp, hjoin⟩ | ⟨hne, hjoin⟩
  · rw [hjoin, hempty]
    constructor
    · exact fun hhead => absurd rfl (h.no_slash '/' (List.mem_of_head? hhead))
    · exact fun hhead => absurd hhead nofun
  · rw [hjoin, hp, List.head?_append, List.head?_append]
    rfl
  · have hchars : p.text.toList ≠ [] := by simpa using hne
    rw [hjoin, List.head?_append_of_ne_nil _ hchars]

end Path

end Files

end Carryover
