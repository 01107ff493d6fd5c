/-
# Brackets in source text

`nest` reads a text and keeps the list of brackets that are open, the innermost first.  It stops at
a bracket that closes nothing, or not the innermost.  A text is `Balanced` if it can be read from
the start and nothing stays open.

Both take the kinds of brackets that count.  With all three kinds `Balanced` is proper nesting; with
one kind it is a matter of numbers, and other brackets may cross.  A text that is read with all
kinds is read with fewer kinds as well, and the open brackets are then those of the kinds that
count (`nest_filter`).  What is read once is read inside of any other brackets
(`nest_append_base`), so a balanced text leaves all open brackets as they were.

`Balanced.count_le` is balance in numbers: no beginning of the text closes more than it opened.
-/
import Mathlib.Data.List.Basic

namespace Carryover.Source

/-! ## 1. Reading brackets -/

/-- A kind of bracket. -/
inductive Bracket where
  | round
  | square
  | curly
  deriving DecidableEq, Repr

/-- The kind of bracket that a character opens. -/
def opened? : Char → Option Bracket
  | '(' => some .round
  | '[' => some .square
  | '\x7b' => some .curly
  | _ => none

/-- The kind of bracket that a character closes. -/
def closed? : Char → Option Bracket
  | ')' => some .round
  | ']' => some .square
  | '\x7d' => some .curly
  | _ => none

/-- The open brackets without the innermost, which has to be of that kind. -/
def closeInnermost (b : Bracket) : List Bracket → Option (List Bracket)
  | [] => none
  | top :: below => if top = b then some below else none

/-- The open brackets behind one character. -/
def nestStep (kinds : Bracket → Bool) (opened : List Bracket) (c : Char) : Option (List Bracket) :=
  match opened? c, closed? c with
  | some b, _ => some (if kinds b then b :: opened else opened)
  | none, some b => if kinds b then closeInnermost b opened else some opened
  | none, none => some opened

/-- **The open brackets behind a text**, of the kinds that count; none if the text closes what is
not the innermost open bracket. -/
def nest (kinds : Bracket → Bool) (cs : List Char) (opened : List Bracket) :
    Option (List Bracket) :=
  cs.foldlM (nestStep kinds) opened

/-- Every bracket that the text opens is closed in it, and the other way round. -/
def Balanced (kinds : Bracket → Bool) (cs : List Char) : Prop :=
  nest kinds cs [] = some []

instance (kinds : Bracket → Bool) (cs : List Char) : Decidable (Balanced kinds cs) :=
  inferInstanceAs (Decidable (_ = _))

/-- All kinds count. -/
def allKinds : Bracket → Bool :=
  fun _ => true

variable {kinds : Bracket → Bool} {b : Bracket} {c : Char} {cs ds : List Char}
  {opened opened' base : List Bracket}

/-! ## 2. Piece by piece -/

@[simp] theorem nest_nil : nest kinds [] opened = some opened :=
  rfl

theorem nest_cons :
    nest kinds (c :: cs) opened = (nestStep kinds opened c).bind (nest kinds cs) :=
  rfl

theorem nest_append : nest kinds (cs ++ ds) opened = (nest kinds cs opened).bind (nest kinds ds) :=
  List.foldlM_append

/-- A text without brackets leaves the open ones as they are. -/
theorem nest_of_plain (h : ∀ c ∈ cs, opened? c = none ∧ closed? c = none) :
    nest kinds cs opened = some opened := by
  induction cs with
  | nil => rfl
  | cons c cs ih =>
    obtain ⟨⟨hopened, hclosed⟩, hcs⟩ := List.forall_mem_cons.mp h
    have hstep : nestStep kinds opened c = some opened := by
      unfold nestStep
      rw [hopened, hclosed]
    rw [nest_cons, hstep]
    exact ih hcs

/-! ## 3. What one character does -/

/-- A character that opens closes nothing. -/
theorem closed?_of_opened? (h : opened? c = some b) : closed? c = none := by
  unfold opened? at h
  split at h
  all_goals first | rfl | exact absurd h nofun

/-- A character that closes opens nothing. -/
theorem opened?_of_closed? (h : closed? c = some b) : opened? c = none := by
  unfold closed? at h
  split at h
  all_goals first | rfl | exact absurd h nofun

/-- A bracket is closed if it is the innermost one. -/
theorem closeInnermost_eq_some_iff :
    closeInnermost b opened = some opened' ↔ opened = b :: opened' := by
  cases opened with
  | nil => exact ⟨nofun, nofun⟩
  | cons top below => simp [closeInnermost]

/-- **A character opens a bracket that counts, closes the innermost one, or does neither.** -/
theorem nestStep_eq_some_iff : nestStep kinds opened c = some opened' ↔
    (∃ b, opened? c = some b ∧ kinds b = true ∧ b :: opened = opened') ∨
    (∃ b, closed? c = some b ∧ kinds b = true ∧ opened = b :: opened') ∨
    ((∀ b, opened? c = some b ∨ closed? c = some b → kinds b = false) ∧ opened = opened') := by
  unfold nestStep
  cases hopened : opened? c with
  | some b => cases hb : kinds b <;> simp [closed?_of_opened? hopened, hb]
  | none =>
    cases hclosed : closed? c with
    | none => simp
    | some b => cases hb : kinds b <;> simp [closeInnermost_eq_some_iff, hb]

/-! ## 4. Inside of other brackets -/

/-- What is closed is still innermost when there are more brackets around. -/
theorem nestStep_append_base (h : nestStep kinds opened c = some opened') :
    nestStep kinds (opened ++ base) c = some (opened' ++ base) := by
  rw [nestStep_eq_some_iff] at h ⊢
  rcases h with ⟨b, hc, hb, rfl⟩ | ⟨b, hc, hb, rfl⟩ | ⟨hnone, rfl⟩
  · exact .inl ⟨b, hc, hb, rfl⟩
  · exact .inr (.inl ⟨b, hc, hb, rfl⟩)
  · exact .inr (.inr ⟨hnone, rfl⟩)

/-- **What is read on its own is read inside of other brackets**, and leaves them alone. -/
theorem nest_append_base (h : nest kinds cs opened = some opened') :
    nest kinds cs (opened ++ base) = some (opened' ++ base) := by
  induction cs generalizing opened with
  | nil => rw [nest_nil, Option.some.inj h]
  | cons c cs ih =>
    rw [nest_cons] at h ⊢
    obtain ⟨mid, hmid, hcs⟩ := Option.bind_eq_some_iff.mp h
    rw [nestStep_append_base hmid]
    exact ih hcs

/-- A balanced text leaves all open brackets as they are. -/
theorem Balanced.nest_eq (h : Balanced kinds cs) : nest kinds cs opened = some opened :=
  nest_append_base h

/-! ## 5. Fewer kinds -/

/-- A character does to the brackets that count what it does to all. -/
theorem nestStep_filter (h : nestStep allKinds opened c = some opened') :
    nestStep kinds (opened.filter kinds) c = some (opened'.filter kinds) := by
  rw [nestStep_eq_some_iff] at h ⊢
  rcases h with ⟨b, hc, -, rfl⟩ | ⟨b, hc, -, rfl⟩ | ⟨hnone, rfl⟩
  · cases hb : kinds b with
    | true => exact .inl ⟨b, hc, hb, by rw [List.filter_cons_of_pos hb]⟩
    | false =>
      refine .inr (.inr ⟨?_, by rw [List.filter_cons_of_neg (by simp [hb])]⟩)
      simp [hc, closed?_of_opened? hc, hb]
  · cases hb : kinds b with
    | true => exact .inr (.inl ⟨b, hc, hb, by rw [List.filter_cons_of_pos hb]⟩)
    | false =>
      refine .inr (.inr ⟨?_, by rw [List.filter_cons_of_neg (by simp [hb])]⟩)
      simp [hc, opened?_of_closed? hc, hb]
  · exact .inr (.inr ⟨fun b hb => absurd (hnone b hb) nofun, rfl⟩)

/-- **A text does to the brackets that count what it does to all.** -/
theorem nest_filter (h : nest allKinds cs opened = some opened') :
    nest kinds cs (opened.filter kinds) = some (opened'.filter kinds) := by
  induction cs generalizing opened with
  | nil => rw [nest_nil, Option.some.inj h]
  | cons c cs ih =>
    rw [nest_cons] at h ⊢
    obtain ⟨mid, hmid, hcs⟩ := Option.bind_eq_some_iff.mp h
    rw [nestStep_filter hmid]
    exact ih hcs

/-! ## 6. Numbers -/

/-- How often a text opens a bracket of a kind. -/
def openCount (b : Bracket) (cs : List Char) : Nat :=
  cs.countP (opened? · = some b)

/-- How often a text closes a bracket of a kind. -/
def closeCount (b : Bracket) (cs : List Char) : Nat :=
  cs.countP (closed? · = some b)

/-- One character changes the number of open brackets of a kind as it opens or closes one. -/
theorem count_nestStep (hb : kinds b = true) (h : nestStep kinds opened c = some opened') :
    opened.count b + openCount b [c] = opened'.count b + closeCount b [c] := by
  unfold openCount closeCount
  rw [List.countP_singleton, List.countP_singleton]
  rcases nestStep_eq_some_iff.mp h with ⟨d, hc, -, rfl⟩ | ⟨d, hc, -, rfl⟩ | ⟨hnone, rfl⟩
  · by_cases hd : d = b <;> simp [hc, closed?_of_opened? hc, hd]
  · by_cases hd : d = b <;> simp [hc, opened?_of_closed? hc, hd]
  · have hopened : opened? c ≠ some b := fun hc => absurd (hnone b (.inl hc)) (by simp [hb])
    have hclosed : closed? c ≠ some b := fun hc => absurd (hnone b (.inr hc)) (by simp [hb])
    simp [hopened, hclosed]

/-- **The number of open brackets of a kind** changes as the text opens and closes them. -/
theorem count_nest (hb : kinds b = true) (h : nest kinds cs opened = some opened') :
    opened.count b + openCount b cs = opened'.count b + closeCount b cs := by
  induction cs generalizing opened with
  | nil =>
    obtain rfl := Option.some.inj h
    rfl
  | cons c cs ih =>
    rw [nest_cons] at h
    obtain ⟨mid, hmid, hcs⟩ := Option.bind_eq_some_iff.mp h
    have hfirst := count_nestStep hb hmid
    have hrest := ih hcs
    have hsplit : c :: cs = [c] ++ cs := rfl
    have hopen : openCount b (c :: cs) = openCount b [c] + openCount b cs := by
      rw [hsplit, openCount, List.countP_append]
      rfl
    have hclose : closeCount b (c :: cs) = closeCount b [c] + closeCount b cs := by
      rw [hsplit, closeCount, List.countP_append]
      rfl
    omega

/-- **A balanced text opens a kind as often as it closes it, and none of its beginnings closes more
than it opened.** -/
theorem Balanced.count_le (h : Balanced kinds cs) (hb : kinds b = true) :
    closeCount b cs = openCount b cs ∧ ∀ ds, ds <+: cs → closeCount b ds ≤ openCount b ds := by
  constructor
  · have hcount := count_nest hb h
    simpa using hcount.symm
  · rintro ds ⟨rest, rfl⟩
    unfold Balanced at h
    rw [nest_append] at h
    obtain ⟨mid, hmid, -⟩ := Option.bind_eq_some_iff.mp h
    have hcount := count_nest hb hmid
    rw [List.count_nil] at hcount
    omega

end Carryover.Source
