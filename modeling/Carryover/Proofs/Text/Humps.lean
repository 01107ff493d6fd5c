/-
# Names in humps

A name in humps, such as `TodoList`, is made of ASCII letters and digits, begins with a capital, and
has no two capitals side by side.  In snake case every hump but the first gets an underscore in
front of it, and that is the only place where underscores come from.  So the parts between the
underscores are the humps (`split_toSnakeFrom`), and Pascal case makes the name whole again
(`toPascal_toSnake`).

Whatever the name is, snake case only lowers capitals and puts underscores in
(`filter_toSnakeFrom`, `lowered_sublist_toSnakeFrom`).
-/
import Mathlib.Data.List.Chain
import Carryover.Model.Generated
import Carryover.Proofs.Text.Case

namespace Carryover.Text

/-! ## 1. Humps -/

/-- ASCII letters and digits, the first of them a capital, and no two capitals side by side. -/
structure IsHumped (cs : List Char) : Prop where
  alphanumeric : ∀ c ∈ cs, IsLetter c ∨ IsNumeral c
  begins : ∃ c rest, cs = c :: rest ∧ IsCapital c
  apart : cs.IsChain fun c d => ¬ (IsCapital c ∧ IsCapital d)

/-- Whether a name is in humps can be computed. -/
theorem IsHumped.of_check {c : Char} {rest : List Char} (hcapital : c.isUpper = true)
    (halnum : (c :: rest).all Char.isAlphanum = true)
    (hapart : (c :: rest).IsChain fun c d => ¬ (c.isUpper = true ∧ d.isUpper = true)) :
    IsHumped (c :: rest) where
  alphanumeric d hd := by
    rw [isLetter_iff, isNumeral_iff, ← Bool.or_eq_true]
    exact List.all_eq_true.mp halnum d hd
  begins := ⟨c, rest, rfl, isCapital_iff.mpr hcapital⟩
  apart := by
    simp only [isCapital_iff]
    exact hapart

/-- Letters and digits are word characters. -/
theorem isWordChar_of_alphanumeric {c : Char} (h : IsLetter c ∨ IsNumeral c) :
    isWordChar c = true :=
  isWordChar_iff.mpr (.inr h)

/-- They are no underscores. -/
theorem ne_underscore_of_alphanumeric {c : Char} (h : IsLetter c ∨ IsNumeral c) : c ≠ '_' := by
  rintro rfl
  revert h
  simp only [isLetter_iff, isNumeral_iff]
  decide

/-- A capital is a word character. -/
theorem isWordChar_of_capital {c : Char} (h : IsCapital c) : isWordChar c = true :=
  isWordChar_of_alphanumeric (.inl (.inl h))

/-- Lower case can be undone. -/
theorem toUpper_toLower {c : Char} (h : IsCapital c) : c.toLower.toUpper = c :=
  forall_isWordChar (P := fun c => c.isUpper = true → c.toLower.toUpper = c) (by decide)
    (isWordChar_of_capital h) (isCapital_iff.mp h)

/-- In lower case a capital is still no underscore. -/
theorem toLower_ne_underscore {c : Char} (h : IsCapital c) : c.toLower ≠ '_' :=
  forall_isWordChar (P := fun c => c.isUpper = true → c.toLower ≠ '_') (by decide)
    (isWordChar_of_capital h) (isCapital_iff.mp h)

namespace Case

/-- Of the word characters the capitals are in upper case. -/
theorem isUpper_of_isWordChar {c : Char} (h : isWordChar c = true) : isUpper c = c.isUpper :=
  if_pos (toNat_lt_of_isWordChar h)

theorem isLower_of_isWordChar {c : Char} (h : isWordChar c = true) : isLower c = c.isLower :=
  if_pos (toNat_lt_of_isWordChar h)

/-- A capital behind anything else opens a new hump. -/
theorem endsWord_of_not_capital {c : Char} (h : IsLetter c ∨ IsNumeral c) (hc : ¬ IsCapital c) :
    endsWord c = true := by
  unfold endsWord
  rw [isLower_of_isWordChar (isWordChar_of_alphanumeric h), Bool.or_eq_true]
  rcases h with (hcapital | hsmall) | hnumeral
  · exact absurd hcapital hc
  · left
    unfold Char.isLower
    simpa [Char.le_def] using hsmall
  · exact .inr (isNumeral_iff.mp hnumeral)

/-! ## 2. Snake case, hump by hump -/

variable {p c : Char} {cs first : List Char} {others : List (List Char)}

/-- A capital goes to lower case, and gets an underscore if a word ends in front of it. -/
theorem toSnakeFrom_capital (hc : IsCapital c) (previous : Option Char) :
    toSnakeFrom previous (c :: cs) = (if previous.any endsWord then ['_'] else []) ++
      c.toLower :: toSnakeFrom (some c) cs := by
  have hword : isWordChar c = true := isWordChar_of_capital hc
  have hupper : isUpper c = true := by rwa [isUpper_of_isWordChar hword, ← isCapital_iff]
  simp [toSnakeFrom, hupper, lower_of_isWordChar hword]

/-- Any other character stays as it is. -/
theorem toSnakeFrom_other (h : IsLetter c ∨ IsNumeral c) (hc : ¬ IsCapital c)
    (previous : Option Char) :
    toSnakeFrom previous (c :: cs) = c :: toSnakeFrom (some c) cs := by
  have hupper : ¬ isUpper c = true := by
    rwa [isUpper_of_isWordChar (isWordChar_of_alphanumeric h), ← isCapital_iff]
  simp [toSnakeFrom, hupper]

/-- A character that is no separator joins the first part. -/
theorem split_cons_of_not_sep {sep : Char → Bool} (hc : sep c = false)
    (h : split sep cs = first :: others) : split sep (c :: cs) = (c :: first) :: others := by
  simp [split, hc, h]

/-- A separator has an empty part in front. -/
theorem split_cons_of_sep {sep : Char → Bool} (hc : sep c = true) :
    split sep (c :: cs) = [] :: split sep cs := by
  simp [split, hc]

/-- **The parts in snake case are the humps.**  The first one goes on with the hump of `p`, so it
stays as it is. -/
theorem split_toSnakeFrom (halnum : ∀ d ∈ p :: cs, IsLetter d ∨ IsNumeral d)
    (hapart : (p :: cs).IsChain fun c d => ¬ (IsCapital c ∧ IsCapital d)) :
    ∃ first others, split (· == '_') (toSnakeFrom (some p) cs) = first :: others ∧
      first ++ (others.map capitalize).flatten = cs := by
  induction cs generalizing p with
  | nil => exact ⟨[], [], rfl, rfl⟩
  | cons c cs ih =>
    obtain ⟨hp, halnum⟩ := List.forall_mem_cons.mp halnum
    obtain ⟨hpc, hapart⟩ := List.isChain_cons_cons.mp hapart
    have hc : IsLetter c ∨ IsNumeral c := halnum c List.mem_cons_self
    obtain ⟨first, others, hsplit, hwhole⟩ := ih halnum hapart
    by_cases hcapital : IsCapital c
    · have hends : endsWord p = true :=
        endsWord_of_not_capital hp fun hp => hpc ⟨hp, hcapital⟩
      have hlower : isWordChar c.toLower = true :=
        isWordChar_toLower (isWordChar_of_capital hcapital)
      refine ⟨[], (c.toLower :: first) :: others, ?_, ?_⟩
      · rw [toSnakeFrom_capital hcapital, Option.any_some, if_pos hends]
        exact (split_cons_of_sep rfl).trans (congrArg ([] :: ·)
          (split_cons_of_not_sep (by simpa using toLower_ne_underscore hcapital) hsplit))
      · simp [capitalize, upper_of_isWordChar hlower, toUpper_toLower hcapital, hwhole]
    · refine ⟨c :: first, others, ?_, ?_⟩
      · rw [toSnakeFrom_other hc hcapital (some p)]
        exact split_cons_of_not_sep (by simpa using ne_underscore_of_alphanumeric hc) hsplit
      · rw [List.cons_append, hwhole]

/-- **Pascal case undoes snake case** on names in humps. -/
theorem toPascal_toSnake (h : IsHumped cs) : toPascal (toSnake cs) = cs := by
  obtain ⟨c, rest, rfl, hcapital⟩ := h.begins
  have hlower : isWordChar c.toLower = true := isWordChar_toLower (isWordChar_of_capital hcapital)
  have hsnake : toSnake (c :: rest) = c.toLower :: toSnakeFrom (some c) rest :=
    toSnakeFrom_capital hcapital none
  obtain ⟨first, others, hsplit, hwhole⟩ := split_toSnakeFrom h.alphanumeric h.apart
  unfold toPascal
  rw [hsnake, split_cons_of_not_sep (by simpa using toLower_ne_underscore hcapital) hsplit]
  simp [capitalize, upper_of_isWordChar hlower, toUpper_toLower hcapital, hwhole]

/-! ## 3. Any name -/

/-- The capitals in lower case, and nothing else. -/
def lowered (cs : List Char) : List Char :=
  cs.flatMap fun c => if isUpper c then lower c else [c]

/-- **Without underscores snake case is lower case.** -/
theorem filter_toSnakeFrom (previous : Option Char) (cs : List Char) :
    (toSnakeFrom previous cs).filter (· != '_') = (lowered cs).filter (· != '_') := by
  induction cs generalizing previous with
  | nil => rfl
  | cons c cs ih =>
    have hhere : ((if isUpper c then (if previous.any endsWord then ['_'] else []) ++ lower c
        else [c]).filter (· != '_')) = (if isUpper c then lower c else [c]).filter (· != '_') := by
      split
      · split <;> simp
      · rfl
    unfold toSnakeFrom lowered
    rw [List.flatMap_cons, List.filter_append, List.filter_append, ih, hhere]
    rfl

/-- **Snake case loses no character**, in lower case. -/
theorem lowered_sublist_toSnakeFrom (previous : Option Char) (cs : List Char) :
    (lowered cs).Sublist (toSnakeFrom previous cs) := by
  induction cs generalizing previous with
  | nil => exact List.Sublist.refl []
  | cons c cs ih =>
    unfold toSnakeFrom lowered
    rw [List.flatMap_cons]
    refine List.Sublist.append ?_ (ih (some c))
    split
    · exact List.sublist_append_right _ _
    · exact List.Sublist.refl [c]

end Case

end Carryover.Text

namespace Carryover

open Text Text.Case

/-! ## 4. Files -/

/-- **Snake case loses nothing.**  A name in humps can be read off its name in snake case, so the
files of different components with such names are different.  Of any name the characters are kept,
the capitals among them in lower case, and underscores come in between. -/
theorem toSnake_loses_nothing :
    (∀ name : String, IsHumped name.toList →
      String.ofList (toPascal (toSnake name.toList)) = name) ∧
    (∀ name name' : String, IsHumped name.toList → IsHumped name'.toList →
      moduleFileName name = moduleFileName name' → name = name') ∧
    ∀ name : String,
      (toSnake name.toList).filter (· != '_') = (lowered name.toList).filter (· != '_') ∧
        (lowered name.toList).Sublist (toSnake name.toList) := by
  have hundone : ∀ name : String, IsHumped name.toList →
      String.ofList (toPascal (toSnake name.toList)) = name := by
    intro name hname
    rw [toPascal_toSnake hname, String.ofList_toList]
  refine ⟨hundone, ?_, fun name => ⟨?_, ?_⟩⟩
  · intro name name' hname hname' hfile
    have hsnake : toSnake name.toList = toSnake name'.toList := by
      simpa [moduleFileName, ← String.toList_inj] using hfile
    rw [← hundone name hname, hsnake, hundone name' hname']
  · exact filter_toSnakeFrom none name.toList
  · exact lowered_sublist_toSnakeFrom none name.toList

/-- Capitals side by side are one part in snake case, and then two files meet. -/
example : moduleFileName "HTTPView" = moduleFileName "Httpview" := by decide

/-- Names that differ in the case of one letter have files of their own. -/
theorem moduleFileName_ne_of_humps :
    IsHumped "Counter2Label".toList ∧ IsHumped "Counter2label".toList ∧
      moduleFileName "Counter2Label" ≠ moduleFileName "Counter2label" := by
  have hlabel : IsHumped "Counter2Label".toList := by
    show IsHumped ('C' :: "ounter2Label".toList)
    exact .of_check (by decide) (by decide) (by decide)
  have hlower : IsHumped "Counter2label".toList := by
    show IsHumped ('C' :: "ounter2label".toList)
    exact .of_check (by decide) (by decide) (by decide)
  refine ⟨hlabel, hlower, fun hfile => ?_⟩
  exact absurd (toSnake_loses_nothing.2.1 _ _ hlabel hlower hfile) (by decide)

end Carryover
