/-
# Words in other letter case

A conversion of a word is a word: `isWordChar_toPascal` and `isWordChar_toSnake`.  Word characters
are ASCII, so each of them has one character as its other case, and the tables of the other letters
are never asked.

A word in Pascal case begins with the first character of the word that is no underscore, in upper
case (`head?_toPascal`).  So it begins with a digit when only underscores stand in front of one.
-/
import Carryover.Text.Case
import Carryover.Proofs.Text.Word

namespace Carryover.Text

/-! ## 1. Word characters -/

/-- What holds of the first characters holds of a character among them. -/
theorem forall_lt_toNat {P : Char → Prop} {bound : Nat} (h : ∀ n < bound, P (Char.ofNat n))
    {c : Char} (hc : c.toNat < bound) : P c := by
  have hofNat : Char.ofNat c.toNat = c := Char.ofNat_toNat c
  rw [← hofNat]
  exact h c.toNat hc

/-- What holds of the ASCII word characters holds of the word characters. -/
theorem forall_isWordChar {P : Char → Prop}
    (h : ∀ n < 128, isWordChar (Char.ofNat n) = true → P (Char.ofNat n)) {c : Char}
    (hc : isWordChar c = true) : P c :=
  forall_lt_toNat (P := fun c => isWordChar c = true → P c) h (toNat_lt_of_isWordChar hc) hc

/-- In upper case a word character is one. -/
theorem isWordChar_toUpper {c : Char} (h : isWordChar c = true) : isWordChar c.toUpper = true :=
  forall_isWordChar (P := fun c => isWordChar c.toUpper = true) (by decide) h

/-- In lower case a word character is one. -/
theorem isWordChar_toLower {c : Char} (h : isWordChar c = true) : isWordChar c.toLower = true :=
  forall_isWordChar (P := fun c => isWordChar c.toLower = true) (by decide) h

/-- Only digits become digits in upper case. -/
theorem isDigit_toUpper {c : Char} (h : isWordChar c = true) : c.toUpper.isDigit = c.isDigit :=
  forall_isWordChar (P := fun c => c.toUpper.isDigit = c.isDigit) (by decide) h

/-- A word character that begins no name is a digit. -/
theorem isWordStart_eq_not_isDigit {c : Char} (h : isWordChar c = true) :
    isWordStart c = !c.isDigit :=
  forall_isWordChar (P := fun c => isWordStart c = !c.isDigit) (by decide) h

namespace Case

/-- A word character has one character as its upper case. -/
theorem upper_of_isWordChar {c : Char} (h : isWordChar c = true) : upper c = [c.toUpper] :=
  if_pos (toNat_lt_of_isWordChar h)

/-- A word character has one character as its lower case. -/
theorem lower_of_isWordChar {c : Char} (h : isWordChar c = true) : lower c = [c.toLower] :=
  if_pos (toNat_lt_of_isWordChar h)

/-! ## 2. Pascal case -/

/-- The parts of a text are made of its characters. -/
theorem mem_of_mem_split {sep : Char → Bool} {cs part : List Char} {c : Char}
    (hpart : part ∈ split sep cs) (hc : c ∈ part) : c ∈ cs := by
  induction cs generalizing part with
  | nil =>
    obtain rfl := List.mem_singleton.mp hpart
    exact hc
  | cons d cs ih =>
    unfold split at hpart
    split at hpart
    · rcases List.mem_cons.mp hpart with rfl | hpart
      · exact absurd hc List.not_mem_nil
      · exact List.mem_cons_of_mem d (ih hpart hc)
    · split at hpart
      · obtain rfl := List.mem_singleton.mp hpart
        obtain rfl := List.mem_singleton.mp hc
        exact List.mem_cons_self
      · next first parts hsplit =>
        rw [hsplit] at ih
        rcases List.mem_cons.mp hpart with rfl | hpart
        · rcases List.mem_cons.mp hc with rfl | hc
          · exact List.mem_cons_self
          · exact List.mem_cons_of_mem d (ih List.mem_cons_self hc)
        · exact List.mem_cons_of_mem d (ih (List.mem_cons_of_mem first hpart) hc)

/-- A capitalised word is a word. -/
theorem isWordChar_capitalize {cs : List Char} (h : ∀ c ∈ cs, isWordChar c = true) :
    ∀ c ∈ capitalize cs, isWordChar c = true := by
  cases cs with
  | nil => exact h
  | cons d cs =>
    obtain ⟨hd, hcs⟩ := List.forall_mem_cons.mp h
    show ∀ c ∈ upper d ++ cs, isWordChar c = true
    rw [upper_of_isWordChar hd]
    exact List.forall_mem_cons.mpr ⟨isWordChar_toUpper hd, hcs⟩

/-- **A word in Pascal case is a word.** -/
theorem isWordChar_toPascal {cs : List Char} (h : ∀ c ∈ cs, isWordChar c = true) :
    ∀ c ∈ toPascal cs, isWordChar c = true := by
  intro c hc
  obtain ⟨_, hmem, hc⟩ := List.mem_flatten.mp hc
  obtain ⟨part, hpart, rfl⟩ := List.mem_map.mp hmem
  exact isWordChar_capitalize (fun d hd => h d (mem_of_mem_split hpart hd)) c hc

/-- An underscore in front is dropped. -/
theorem toPascal_underscore (cs : List Char) : toPascal ('_' :: cs) = toPascal cs := by
  unfold toPascal
  rw [split, if_pos (by decide)]
  rfl

/-- Any other character in front stays there, in upper case. -/
theorem head?_toPascal_cons {c : Char} {cs : List Char} (hc : isWordChar c = true)
    (hne : c ≠ '_') : (toPascal (c :: cs)).head? = some c.toUpper := by
  unfold toPascal
  rw [split, if_neg (by simpa using hne)]
  cases split (· == '_') cs with
  | nil => simp [capitalize, upper_of_isWordChar hc]
  | cons part parts => simp [capitalize, upper_of_isWordChar hc]

/-- **A word in Pascal case begins with the first character that is no underscore**, in upper
case. -/
theorem head?_toPascal {cs : List Char} (h : ∀ c ∈ cs, isWordChar c = true) :
    (toPascal cs).head? = (cs.dropWhile (· == '_')).head?.map Char.toUpper := by
  induction cs with
  | nil => rfl
  | cons c cs ih =>
    obtain ⟨hc, hcs⟩ := List.forall_mem_cons.mp h
    by_cases hne : c = '_'
    · subst hne
      rw [toPascal_underscore, ih hcs, List.dropWhile_cons_of_pos (by decide)]
    · rw [head?_toPascal_cons hc hne, List.dropWhile_cons_of_neg (by simpa using hne)]
      rfl

/-! ## 3. Snake case -/

/-- **A word in snake case is a word**, whatever stood in front of it. -/
theorem isWordChar_toSnakeFrom {cs : List Char} (h : ∀ c ∈ cs, isWordChar c = true)
    (previous : Option Char) : ∀ c ∈ toSnakeFrom previous cs, isWordChar c = true := by
  induction cs generalizing previous with
  | nil => exact fun c hc => absurd hc List.not_mem_nil
  | cons d cs ih =>
    obtain ⟨hd, hcs⟩ := List.forall_mem_cons.mp h
    intro c hc
    unfold toSnakeFrom at hc
    rcases List.mem_append.mp hc with hc | hc
    · rw [lower_of_isWordChar hd] at hc
      split at hc
      · rcases List.mem_append.mp hc with hc | hc
        · split at hc
          · obtain rfl := List.mem_singleton.mp hc
            rfl
          · exact absurd hc List.not_mem_nil
        · obtain rfl := List.mem_singleton.mp hc
          exact isWordChar_toLower hd
      · obtain rfl := List.mem_singleton.mp hc
        exact hd
    · exact ih hcs (some d) c hc

/-- A word in snake case is a word. -/
theorem isWordChar_toSnake {cs : List Char} (h : ∀ c ∈ cs, isWordChar c = true) :
    ∀ c ∈ toSnake cs, isWordChar c = true :=
  isWordChar_toSnakeFrom h none

end Case

end Carryover.Text
