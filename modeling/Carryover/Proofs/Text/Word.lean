/-
# Whole words

`mentions` cuts a text at its separators and looks for a part; `HasWord` says of a text where a
word stands in it.  `mentions_iff_hasWord` is their agreement for every word that is made of word
characters, the empty one included.

The cut is understood part by part: the first part reaches up to the first separator
(`head?_split`), and every other part begins behind a separator (`mem_tail_split_iff`).  The two
cannot be told together by induction, because a part that stands in front of a text is no part
once a letter is put before the text; so the tail is treated on its own.

Identifiers are words (`isWordChar_of_isIdentifier`), so `mentions_identifier_iff` has it for them,
with the characters of words spelled out, and adds that a mention survives more text around it.
-/
import Carryover.Model.Name

namespace Carryover.Text

/-! ## 1. Characters -/

/-- A capital of ASCII. -/
def IsCapital (c : Char) : Prop :=
  'A' ≤ c ∧ c ≤ 'Z'

/-- A letter of ASCII. -/
def IsLetter (c : Char) : Prop :=
  IsCapital c ∨ ('a' ≤ c ∧ c ≤ 'z')

/-- A digit of ASCII. -/
def IsNumeral (c : Char) : Prop :=
  '0' ≤ c ∧ c ≤ '9'

/-- What stands between words: all but ASCII letters, ASCII digits and underscores. -/
def IsSeparator (c : Char) : Prop :=
  ¬ (c = '_' ∨ IsLetter c ∨ IsNumeral c)

theorem isCapital_iff {c : Char} : IsCapital c ↔ c.isUpper = true := by
  unfold Char.isUpper
  simp [IsCapital, Char.le_def]

theorem isLetter_iff {c : Char} : IsLetter c ↔ c.isAlpha = true := by
  unfold Char.isAlpha Char.isLower
  simp [IsLetter, isCapital_iff, Char.le_def]

theorem isNumeral_iff {c : Char} : IsNumeral c ↔ c.isDigit = true := by
  simp [Char.isDigit, IsNumeral, Char.le_def]

/-- The characters with which a name begins. -/
theorem isWordStart_iff {c : Char} : isWordStart c = true ↔ c = '_' ∨ IsLetter c := by
  simp [isWordStart, isLetter_iff]

/-- The characters that a word is made of. -/
theorem isWordChar_iff {c : Char} :
    isWordChar c = true ↔ c = '_' ∨ IsLetter c ∨ IsNumeral c := by
  simp [isWordChar, Char.isAlphanum, isLetter_iff, isNumeral_iff]

/-- All others separate words. -/
theorem isSeparator_iff {c : Char} : IsSeparator c ↔ isWordChar c = false := by
  rw [IsSeparator, ← isWordChar_iff, Bool.not_eq_true]

/-- Word characters are ASCII. -/
theorem toNat_lt_of_isWordChar {c : Char} (h : isWordChar c = true) : c.toNat < 128 := by
  have hbelow : ∀ d : Char, c ≤ d → d.toNat < 128 → c.toNat < 128 :=
    fun d hle hd => Nat.lt_of_le_of_lt (UInt32.le_iff_toNat_le.mp hle) hd
  rcases isWordChar_iff.mp h with rfl | (hcapital | hsmall) | hnumeral
  · decide
  · exact hbelow 'Z' hcapital.2 (by decide)
  · exact hbelow 'z' hsmall.2 (by decide)
  · exact hbelow '9' hnumeral.2 (by decide)

/-- Characters beyond ASCII separate words. -/
theorem isSeparator_of_le {c : Char} (h : 128 ≤ c.toNat) : IsSeparator c := by
  intro hword
  have hlt : c.toNat < 128 := toNat_lt_of_isWordChar (isWordChar_iff.mpr hword)
  omega

/-! ## 2. The parts of a text -/

/-- Does the text end here, or go on with a separator? -/
def EndsPart (sep : Char → Bool) (cs : List Char) : Prop :=
  ∀ c ∈ cs.head?, sep c = true

/-- The first part of a text is the only one that a separator or nothing follows. -/
theorem eq_takeWhile_iff {sep : Char → Bool} {part cs : List Char} :
    part = cs.takeWhile (fun c => !sep c) ↔
      (∀ c ∈ part, sep c = false) ∧ ∃ b, cs = part ++ b ∧ EndsPart sep b := by
  constructor
  · intro h
    subst h
    refine ⟨?_, cs.dropWhile (fun c => !sep c), List.takeWhile_append_dropWhile.symm, ?_⟩
    · intro c hc
      simpa using List.all_eq_true.mp List.all_takeWhile c hc
    · intro c hc
      have hnot := List.head?_dropWhile_not (fun c => !sep c) cs
      rw [Option.mem_def.mp hc] at hnot
      simpa using hnot
  · rintro ⟨hpart, b, rfl, hb⟩
    have hall : ∀ c ∈ part, (!sep c) = true := fun c hc => by rw [hpart c hc]; rfl
    rw [List.takeWhile_append_of_pos hall]
    cases b with
    | nil => simp
    | cons s b =>
      have hs : sep s = true := hb s rfl
      simp [hs]

/-- A text is cut into one part at least, the first of which reaches up to a separator. -/
theorem head?_split (sep : Char → Bool) (cs : List Char) :
    (split sep cs).head? = some (cs.takeWhile fun c => !sep c) := by
  induction cs with
  | nil => rfl
  | cons c cs ih =>
    unfold split
    by_cases h : sep c = true
    · simp [h]
    · match hp : split sep cs with
      | [] =>
        rw [hp] at ih
        exact absurd ih nofun
      | part :: parts =>
        rw [hp] at ih
        have hpart : part = cs.takeWhile fun c => !sep c := Option.some.inj ih
        simp [h, hpart]

/-- A text that begins with a separator has an empty part in front. -/
theorem tail_split_of_sep {sep : Char → Bool} {c : Char} (h : sep c = true) (cs : List Char) :
    (split sep (c :: cs)).tail = split sep cs := by
  rw [split, if_pos h, List.tail_cons]

/-- A letter in front belongs to the first part. -/
theorem tail_split_of_not_sep {sep : Char → Bool} {c : Char} (h : ¬ sep c = true)
    (cs : List Char) : (split sep (c :: cs)).tail = (split sep cs).tail := by
  rw [split, if_neg h]
  cases split sep cs <;> rfl

/-- What is a part of a text, said by the first part and the others. -/
theorem mem_split_cases {sep : Char → Bool} {part cs : List Char} :
    part ∈ split sep cs ↔ part = cs.takeWhile (fun c => !sep c) ∨ part ∈ (split sep cs).tail := by
  have hhead := head?_split sep cs
  match hp : split sep cs with
  | [] =>
    rw [hp] at hhead
    exact absurd hhead nofun
  | first :: others =>
    rw [hp] at hhead
    have hfirst : first = cs.takeWhile fun c => !sep c := Option.some.inj hhead
    rw [List.mem_cons, List.tail_cons, hfirst]

/-- **Every part but the first stands behind a separator.** -/
theorem mem_tail_split_iff {sep : Char → Bool} {part cs : List Char} :
    part ∈ (split sep cs).tail ↔
      (∀ c ∈ part, sep c = false) ∧
        ∃ a s b, cs = a ++ s :: (part ++ b) ∧ sep s = true ∧ EndsPart sep b := by
  induction cs with
  | nil => simp [split]
  | cons c cs ih =>
    by_cases h : sep c = true
    · rw [tail_split_of_sep h, mem_split_cases, eq_takeWhile_iff, ih]
      constructor
      · rintro (⟨hpart, b, rfl, hb⟩ | ⟨hpart, a, s, b, rfl, hs, hb⟩)
        · exact ⟨hpart, [], c, b, rfl, h, hb⟩
        · exact ⟨hpart, c :: a, s, b, rfl, hs, hb⟩
      · rintro ⟨hpart, a, s, b, heq, hs, hb⟩
        cases a with
        | nil =>
          obtain ⟨-, rfl⟩ := List.cons.inj heq
          exact .inl ⟨hpart, b, rfl, hb⟩
        | cons a₀ a =>
          obtain ⟨-, rfl⟩ := List.cons.inj heq
          exact .inr ⟨hpart, a, s, b, rfl, hs, hb⟩
    · rw [tail_split_of_not_sep h, ih]
      constructor
      · rintro ⟨hpart, a, s, b, rfl, hs, hb⟩
        exact ⟨hpart, c :: a, s, b, rfl, hs, hb⟩
      · rintro ⟨hpart, a, s, b, heq, hs, hb⟩
        cases a with
        | nil =>
          obtain ⟨rfl, -⟩ := List.cons.inj heq
          exact absurd hs h
        | cons a₀ a =>
          obtain ⟨-, rfl⟩ := List.cons.inj heq
          exact ⟨hpart, a, s, b, rfl, hs, hb⟩

/-! ## 3. Words -/

/-- The text holds the word, with no word character right before it or right behind it. -/
def HasWord (text word : String) : Prop :=
  ∃ a b : String, text = a ++ word ++ b ∧
    (∀ c ∈ a.toList.getLast?, isWordChar c = false) ∧
    (∀ c ∈ b.toList.head?, isWordChar c = false)

/-- Where a word stands, letter by letter: at the beginning or behind a separator. -/
theorem hasWord_iff {text word : String} :
    HasWord text word ↔
      (∃ b, text.toList = word.toList ++ b ∧ EndsPart (fun c => !isWordChar c) b) ∨
      ∃ a s b, text.toList = a ++ s :: (word.toList ++ b) ∧ (!isWordChar s) = true ∧
        EndsPart (fun c => !isWordChar c) b := by
  constructor
  · rintro ⟨a, b, rfl, ha, hb⟩
    have hb' : EndsPart (fun c => !isWordChar c) b.toList := fun c hc => by simp [hb c hc]
    rcases List.eq_nil_or_concat a.toList with hnil | ⟨front, s, hlast⟩
    · exact .inl ⟨b.toList, by simp [hnil], hb'⟩
    · refine .inr ⟨front, s, b.toList, by simp [hlast], ?_, hb'⟩
      have hs : isWordChar s = false := ha s (by simp [hlast])
      simp [hs]
  · rintro (⟨b, htext, hb⟩ | ⟨a, s, b, htext, hs, hb⟩)
    · refine ⟨"", String.ofList b, ?_, by simp, ?_⟩
      · apply String.toList_inj.mp
        simp [htext]
      · intro c hc
        simpa using hb c (by simpa using hc)
    · refine ⟨String.ofList (a ++ [s]), String.ofList b, ?_, ?_, ?_⟩
      · apply String.toList_inj.mp
        simp [htext]
      · simpa using hs
      · intro c hc
        simpa using hb c (by simpa using hc)

/-- **Looking for a part is looking for a whole word**, whenever the word is one. -/
theorem mentions_iff_hasWord {text word : String}
    (hword : ∀ c ∈ word.toList, isWordChar c = true) :
    mentions text word = true ↔ HasWord text word := by
  have hparts : ∀ c ∈ word.toList, (!isWordChar c) = false := fun c hc => by simp [hword c hc]
  unfold mentions wordsOf
  rw [List.contains_iff_mem, mem_split_cases, eq_takeWhile_iff, mem_tail_split_iff, hasWord_iff,
    and_iff_right hparts, and_iff_right hparts]

/-- **A word stays in a text** that gets more text around it, if a separator or nothing is put next
to the old text. -/
theorem HasWord.around {text word before behind : String} (h : HasWord text word)
    (hbefore : ∀ c ∈ before.toList.getLast?, isWordChar c = false)
    (hbehind : ∀ c ∈ behind.toList.head?, isWordChar c = false) :
    HasWord (before ++ text ++ behind) word := by
  obtain ⟨a, b, rfl, ha, hb⟩ := h
  refine ⟨before ++ a, b ++ behind, by simp only [String.append_assoc], ?_, ?_⟩
  · intro c hc
    rw [String.toList_append, List.getLast?_append, Option.mem_def, Option.or_eq_some_iff] at hc
    rcases hc with hc | ⟨-, hc⟩
    · exact ha c hc
    · exact hbefore c hc
  · intro c hc
    rw [String.toList_append, List.head?_append, Option.mem_def, Option.or_eq_some_iff] at hc
    rcases hc with hc | ⟨-, hc⟩
    · exact hb c hc
    · exact hbehind c hc

end Carryover.Text

namespace Carryover

open Text

/-! ## 4. Identifiers -/

/-- An identifier is made of word characters. -/
theorem isWordChar_of_isIdentifier {name : String} (h : isIdentifier name = true) :
    ∀ c ∈ name.toList, isWordChar c = true := by
  unfold isIdentifier at h
  cases hname : name.toList with
  | nil => simp
  | cons first rest =>
    simp only [hname, Bool.and_eq_true, List.all_eq_true] at h
    intro c hc
    rcases List.mem_cons.mp hc with rfl | hc
    · exact isWordChar_iff.mpr ((isWordStart_iff.mp h.1.1.1).imp_right .inl)
    · exact h.1.1.2 c hc

/-- **An identifier is mentioned where it stands as a whole word.**  It stays mentioned when the
text gets more text around it that begins and ends in separators. -/
theorem mentions_identifier_iff {name : String} (hname : isIdentifier name = true)
    (text : String) :
    (mentions text name = true ↔ ∃ a b : String, text = a ++ name ++ b ∧
      (∀ c ∈ a.toList.getLast?, IsSeparator c) ∧ (∀ c ∈ b.toList.head?, IsSeparator c)) ∧
    (∀ c : Char, 128 ≤ c.toNat → IsSeparator c) ∧
    ∀ before behind : String, (∀ c ∈ before.toList.getLast?, IsSeparator c) →
      (∀ c ∈ behind.toList.head?, IsSeparator c) → mentions text name = true →
      mentions (before ++ text ++ behind) name = true := by
  have hwhole : ∀ text, mentions text name = true ↔ HasWord text name :=
    fun _ => mentions_iff_hasWord (isWordChar_of_isIdentifier hname)
  refine ⟨?_, fun c hc => isSeparator_of_le hc, ?_⟩
  · simp only [isSeparator_iff]
    exact hwhole text
  · intro before behind hbefore hbehind hmentions
    simp only [isSeparator_iff] at hbefore hbehind
    rw [hwhole] at hmentions ⊢
    exact hmentions.around hbefore hbehind

/-- `T` is in these words, but it is none of them. -/
example : mentions "Tree<T2, _T>" "T" = false := by decide

/-- Behind a letter beyond ASCII it is a word, and remains one in a longer type. -/
theorem mentions_wrapped :
    isIdentifier "T" = true ∧ mentions "Tree<T2, éT>" "T" = true ∧
      mentions ("Option<" ++ "Tree<T2, éT>" ++ ">") "T" = true := by
  have hname : isIdentifier "T" = true := by decide
  have htext : mentions "Tree<T2, éT>" "T" = true := by decide
  have hbefore : ∀ c ∈ "Option<".toList.getLast?, IsSeparator c := by
    rintro _ ⟨⟩
    exact isSeparator_iff.mpr rfl
  have hbehind : ∀ c ∈ ">".toList.head?, IsSeparator c := by
    rintro _ ⟨⟩
    exact isSeparator_iff.mpr rfl
  exact ⟨hname, htext, (mentions_identifier_iff hname _).2.2 _ _ hbefore hbehind htext⟩

end Carryover
