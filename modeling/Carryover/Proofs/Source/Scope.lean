/-
# The scopes of names

Lines of code bind names and use them.  Some names are chosen by a spec, and all others by the
synthesis itself.  `Code` keeps apart what a text does not show: which of its words bind a name,
which ones use one, and how far a bound name reaches.

Code is clear (`Code.Clear`) if the names that the spec chose differ, and if none of them is used
where the synthesis has bound the same name.  Then a name of the spec that is known refers to what
the spec has given it to (`Code.Clear.refers`).

`Code.uses` hands down all that is known, in order.  For the question whether code is clear only the
synthesis' own names matter, so `Code.Apart` hands down those alone; `apart_iff` is that this is the
same.
-/
import Carryover.Source.Line
import Carryover.Source.Vocabulary

namespace Carryover.Source

/-! ## 1. Words -/

/-- Who chose a name. -/
inductive Chooser where
  | spec
  | synthesis
  deriving DecidableEq, Repr

/-- A name with the one who chose it. -/
@[ext] structure Name where
  chooser : Chooser
  text : String
  deriving DecidableEq, Repr

/-- A name that a spec chose. -/
def chosenName (t : String) : Name :=
  ⟨.spec, t⟩

/-- A name of the synthesis' own. -/
def ownName (t : String) : Name :=
  ⟨.synthesis, t⟩

/-- A piece of a line. -/
inductive Word where
  /-- A text in which nothing is bound and nothing that is bound is used. -/
  | text (t : String)
  | binds (n : Name)
  | uses (n : Name)
  deriving DecidableEq, Repr

namespace Word

/-- The word as it is written. -/
def shown : Word → String
  | text t => t
  | binds n => n.text
  | uses n => n.text

/-- The name that the word binds. -/
def bound? : Word → Option Name
  | binds n => some n
  | _ => none

/-- The name that the word uses. -/
def used? : Word → Option Name
  | uses n => some n
  | _ => none

end Word

/-- The text of a line. -/
def wordsText (ws : List Word) : String :=
  String.join (ws.map Word.shown)

/-- The names that a line binds. -/
def boundIn (ws : List Word) : List Name :=
  ws.filterMap Word.bound?

/-- The names that a line uses. -/
def usedIn (ws : List Word) : List Name :=
  ws.filterMap Word.used?

/-- Parts of a list in one line, as `commaList` has them. -/
def commaWords : List (List Word) → List Word
  | [] => []
  | [part] => part
  | part :: next :: parts => part ++ .text ", " :: commaWords (next :: parts)

/-- The names that one of the two has chosen. -/
def chosenBy (who : Chooser) (names : List Name) : List String :=
  (names.filter (·.chooser = who)).map (·.text)

section Words

variable {w : Word} {ws ws' : List Word} {n : Name} {names names' : List Name} {who : Chooser}
  {parts : List (List Word)} {t : String}

@[simp] theorem chooser_chosenName : (chosenName t).chooser = .spec :=
  rfl

@[simp] theorem text_chosenName : (chosenName t).text = t :=
  rfl

@[simp] theorem chooser_ownName : (ownName t).chooser = .synthesis :=
  rfl

@[simp] theorem text_ownName : (ownName t).text = t :=
  rfl

@[simp] theorem Word.shown_text : (Word.text t).shown = t :=
  rfl

@[simp] theorem Word.shown_binds : (Word.binds n).shown = n.text :=
  rfl

@[simp] theorem Word.shown_uses : (Word.uses n).shown = n.text :=
  rfl

@[simp] theorem wordsText_nil : wordsText [] = "" :=
  rfl

@[simp] theorem wordsText_cons : wordsText (w :: ws) = w.shown ++ wordsText ws := by
  simp [wordsText]

@[simp] theorem wordsText_append : wordsText (ws ++ ws') = wordsText ws ++ wordsText ws' := by
  simp [wordsText]

@[simp] theorem wordsText_commaWords :
    wordsText (commaWords parts) = commaList (parts.map wordsText) := by
  unfold commaList
  induction parts using commaWords.induct with
  | case1 => rfl
  | case2 part => simp [commaWords]
  | case3 part next parts ih =>
    rw [commaWords, List.map_cons, String.intercalate_cons_of_ne_nil (by simp), ← ih]
    simp [String.append_assoc]

@[simp] theorem boundIn_nil : boundIn [] = [] :=
  rfl

@[simp] theorem boundIn_text : boundIn (.text t :: ws) = boundIn ws :=
  rfl

@[simp] theorem boundIn_binds : boundIn (.binds n :: ws) = n :: boundIn ws :=
  rfl

@[simp] theorem boundIn_uses : boundIn (.uses n :: ws) = boundIn ws :=
  rfl

@[simp] theorem boundIn_append : boundIn (ws ++ ws') = boundIn ws ++ boundIn ws' :=
  List.filterMap_append

@[simp] theorem usedIn_nil : usedIn [] = [] :=
  rfl

@[simp] theorem usedIn_text : usedIn (.text t :: ws) = usedIn ws :=
  rfl

@[simp] theorem usedIn_binds : usedIn (.binds n :: ws) = usedIn ws :=
  rfl

@[simp] theorem usedIn_uses : usedIn (.uses n :: ws) = n :: usedIn ws :=
  rfl

@[simp] theorem usedIn_append : usedIn (ws ++ ws') = usedIn ws ++ usedIn ws' :=
  List.filterMap_append

@[simp] theorem boundIn_commaWords : boundIn (commaWords parts) = parts.flatMap boundIn := by
  induction parts using commaWords.induct with
  | case1 => rfl
  | case2 part => simp [commaWords]
  | case3 part next parts ih => simp [commaWords, ih]

@[simp] theorem usedIn_commaWords : usedIn (commaWords parts) = parts.flatMap usedIn := by
  induction parts using commaWords.induct with
  | case1 => rfl
  | case2 part => simp [commaWords]
  | case3 part next parts ih => simp [commaWords, ih]

@[simp] theorem chosenBy_nil : chosenBy who [] = [] :=
  rfl

@[simp] theorem chosenBy_cons :
    chosenBy who (n :: names)
      = (if n.chooser = who then [n.text] else []) ++ chosenBy who names := by
  by_cases h : n.chooser = who <;> simp [chosenBy, h]

@[simp] theorem chosenBy_append :
    chosenBy who (names ++ names') = chosenBy who names ++ chosenBy who names' := by
  unfold chosenBy
  rw [List.filter_append, List.map_append]

@[simp] theorem chosenBy_flatMap {α : Type} {xs : List α} {f : α → List Name} :
    chosenBy who (xs.flatMap f) = xs.flatMap fun x => chosenBy who (f x) := by
  unfold chosenBy
  rw [List.filter_flatMap, List.map_flatMap]

/-- A name is chosen by the one who chose it. -/
theorem mem_chosenBy_iff : t ∈ chosenBy who names ↔ ⟨who, t⟩ ∈ names := by
  unfold chosenBy
  simp only [List.mem_map, List.mem_filter, decide_eq_true_eq]
  constructor
  · rintro ⟨n, ⟨hn, rfl⟩, rfl⟩
    exact hn
  · intro h
    exact ⟨_, ⟨h, rfl⟩, rfl⟩

end Words

/-! ## 2. Code -/

/-- How far the names reach that the first line of a group binds. -/
inductive Reach where
  /-- Into the group, as in a function. -/
  | inside
  /-- To what stands behind the group, as in a declaration of several lines. -/
  | behind
  /-- The first line binds none, and what is bound in the group reaches to what stands behind it, as
  in a list of parameters. -/
  | through
  deriving DecidableEq, Repr

/-- Lines of code, and groups of lines that stand one level further in than their first line. -/
inductive Code where
  | done
  | line (words : List Word) (rest : Code)
  | group (reach : Reach) (header : List Word) (inner rest : Code)
  deriving DecidableEq, Repr

namespace Code

/-- Code behind other code. -/
def append : Code → Code → Code
  | done, other => other
  | line words rest, other => line words (rest.append other)
  | group reach header inner rest, other => group reach header inner (rest.append other)

instance : Append Code :=
  ⟨append⟩

/-- Pieces of code one behind the other. -/
def join (codes : List Code) : Code :=
  codes.foldr (· ++ ·) done

/-- One line. -/
def ofLine (words : List Word) : Code :=
  line words done

/-- One line in which nothing is bound and nothing that is bound is used. -/
def ofText (t : String) : Code :=
  ofLine [.text t]

/-- A group, and the line that closes it. -/
def closed (reach : Reach) (closing : String) (header : List Word) (inner : Code) : Code :=
  group reach header inner (ofText closing)

/-- A block, into which the names of its header reach. -/
def block (header : List Word) (inner : Code) : Code :=
  closed .inside "\x7d" (header ++ [.text " \x7b"]) inner

/-- The lines as they are written. -/
def lines : Code → List Line
  | done => []
  | line words rest => Source.line (wordsText words) ++ rest.lines
  | group _ header inner rest =>
    Source.line (wordsText header) ++ indent inner.lines ++ rest.lines

variable {code code' inner : Code} {words header : List Word} {reach : Reach} {closing : String}

@[simp] theorem lines_append : (code ++ code').lines = code.lines ++ code'.lines := by
  change (code.append code').lines = _
  induction code with
  | done => rfl
  | line words rest ih => simp [append, lines, ih]
  | group reach header inner rest _ ih => simp [append, lines, ih]

@[simp] theorem lines_join {codes : List Code} : (join codes).lines = codes.flatMap lines := by
  induction codes with
  | nil => rfl
  | cons code codes ih =>
    change (code ++ join codes).lines = _
    rw [lines_append, ih, List.flatMap_cons]

@[simp] theorem lines_ofLine : (ofLine words).lines = Source.line (wordsText words) :=
  List.append_nil _

@[simp] theorem lines_ofText {t : String} : (ofText t).lines = Source.line t := by
  simp [ofText]

@[simp] theorem lines_closed : (closed reach closing header inner).lines
    = Source.line (wordsText header) ++ indent inner.lines ++ Source.line closing := by
  simp [closed, lines]

@[simp] theorem lines_block :
    (block header inner).lines = Source.block (wordsText header) inner.lines := by
  simp [block, Source.block, blockUntil, opening]

end Code

/-! ## 3. Scopes -/

/-- The names of its first line that are known in a group. -/
def Reach.into (header : List Word) : Reach → List Name
  | .inside => boundIn header
  | .behind => []
  | .through => []

/-- The names that are known behind a group, if these are those that its lines leave. -/
def Reach.beyond (header : List Word) (left : List Name) : Reach → List Name
  | .inside => []
  | .behind => boundIn header
  | .through => left

/-- A name where it is used, with all that is known there, the last one first. -/
structure Use where
  name : Name
  known : List Name
  deriving DecidableEq, Repr

namespace Code

/-- All names that are bound somewhere. -/
def bound : Code → List Name
  | done => []
  | line words rest => boundIn words ++ rest.bound
  | group _ header inner rest => boundIn header ++ inner.bound ++ rest.bound

/-- The names that are known behind the code, beside those that were known before. -/
def left : Code → List Name
  | done => []
  | line words rest => rest.left ++ boundIn words
  | group reach header inner rest => rest.left ++ reach.beyond header inner.left

/-- What is used where what is known.  A line uses names before it binds any. -/
def uses (known : List Name) : Code → List Use
  | done => []
  | line words rest =>
    (usedIn words).map (fun n => ⟨n, known⟩) ++ rest.uses (boundIn words ++ known)
  | group reach header inner rest =>
    (usedIn header).map (fun n => ⟨n, known⟩) ++ inner.uses (reach.into header ++ known) ++
      rest.uses (reach.beyond header inner.left ++ known)

end Code

/-- The name is not the spec's, or the synthesis has bound nothing of that name. -/
def Use.Apart (use : Use) : Prop :=
  use.name.chooser = .spec → ∀ n ∈ use.known, n.chooser = .synthesis → n.text ≠ use.name.text

/-- **The names that the spec chose differ**, from each other and from all that the synthesis has
bound where they are used. -/
structure Code.Clear (code : Code) : Prop where
  differ : (chosenBy .spec code.bound).Nodup
  apart : ∀ use ∈ code.uses [], use.Apart

/-- **In clear code no name of the spec is shadowed.**  If it is known, then it is the last one of
its text to become known. -/
theorem Code.Clear.refers {code : Code} (h : code.Clear) {use : Use} (huse : use ∈ code.uses [])
    (hspec : use.name.chooser = .spec) (hknown : use.name ∈ use.known) :
    use.known.find? (·.text = use.name.text) = some use.name := by
  cases hfound : use.known.find? (·.text = use.name.text) with
  | none => exact absurd (List.find?_eq_none.mp hfound use.name hknown) (by simp)
  | some n =>
    have htext : n.text = use.name.text := by simpa using List.find?_some hfound
    have hchooser : n.chooser = .spec := by
      cases hn : n.chooser with
      | spec => rfl
      | synthesis =>
        exact absurd htext (h.apart use huse hspec n (List.mem_of_find?_eq_some hfound) hn)
    have hname : n = use.name := Name.ext (hchooser.trans hspec.symm) htext
    rw [hname]

/-! ## 4. The synthesis' own names -/

namespace Code

/-- Is no name of the spec used where the synthesis has bound its text?  `taken` are the texts that
it has bound before. -/
def Apart (taken : List String) : Code → Prop
  | done => True
  | line words rest =>
    (∀ t ∈ chosenBy .spec (usedIn words), t ∉ taken) ∧
      rest.Apart (chosenBy .synthesis (boundIn words) ++ taken)
  | group reach header inner rest =>
    (∀ t ∈ chosenBy .spec (usedIn header), t ∉ taken) ∧
      inner.Apart (chosenBy .synthesis (reach.into header) ++ taken) ∧
      rest.Apart (chosenBy .synthesis (reach.beyond header inner.left) ++ taken)

variable {code code' inner : Code} {words header : List Word} {reach : Reach} {closing : String}
  {taken : List String} {known : List Name}

/-- A line is apart from what is known if its names are. -/
theorem forall_usedIn_apart_iff :
    (∀ use ∈ (usedIn words).map (fun n => (⟨n, known⟩ : Use)), use.Apart) ↔
      ∀ t ∈ chosenBy .spec (usedIn words), t ∉ chosenBy .synthesis known := by
  simp only [List.forall_mem_map, mem_chosenBy_iff, Use.Apart]
  constructor
  · intro h t ht hown
    exact h ⟨.spec, t⟩ ht rfl ⟨.synthesis, t⟩ hown rfl rfl
  · rintro h ⟨who, t⟩ hn rfl n hown hchooser htext
    have hname : n = ⟨.synthesis, t⟩ := Name.ext hchooser htext
    exact h t hn (hname ▸ hown)

/-- **Only the synthesis' own names matter.** -/
theorem apart_iff :
    code.Apart (chosenBy .synthesis known) ↔ ∀ use ∈ code.uses known, use.Apart := by
  induction code generalizing known with
  | done => simp [Apart, uses]
  | line words rest ih =>
    rw [Apart, uses, List.forall_mem_append, forall_usedIn_apart_iff, ← chosenBy_append, ih]
  | group reach header inner rest ihInner ihRest =>
    rw [Apart, uses, List.forall_mem_append, List.forall_mem_append, forall_usedIn_apart_iff,
      ← chosenBy_append, ← chosenBy_append, ihInner, ihRest, and_assoc]

/-- Code is clear if the names that the spec chose differ and are apart. -/
theorem clear_iff : code.Clear ↔ (chosenBy .spec code.bound).Nodup ∧ code.Apart [] := by
  have hnone : code.Apart (chosenBy .synthesis []) ↔ ∀ use ∈ code.uses [], use.Apart := apart_iff
  exact ⟨fun h => ⟨h.differ, hnone.mpr h.apart⟩, fun h => ⟨h.1, hnone.mp h.2⟩⟩

@[simp] theorem left_append : (code ++ code').left = code'.left ++ code.left := by
  change (code.append code').left = _
  induction code with
  | done => simp [append, left]
  | line words rest ih => simp [append, left, ih]
  | group reach header inner rest _ ih => simp [append, left, ih]

@[simp] theorem bound_append : (code ++ code').bound = code.bound ++ code'.bound := by
  change (code.append code').bound = _
  induction code with
  | done => rfl
  | line words rest ih => simp [append, bound, ih]
  | group reach header inner rest _ ih => simp [append, bound, ih]

/-- Code behind other code knows what that leaves. -/
@[simp] theorem apart_append : (code ++ code').Apart taken ↔
    code.Apart taken ∧ code'.Apart (chosenBy .synthesis code.left ++ taken) := by
  change (code.append code').Apart taken ↔ _
  induction code generalizing taken with
  | done => simp [append, left, Apart]
  | line words rest ih => simp [append, left, Apart, ih, and_assoc]
  | group reach header inner rest _ ih => simp [append, left, Apart, ih, and_assoc]

@[simp] theorem bound_ofLine : (ofLine words).bound = boundIn words :=
  List.append_nil _

@[simp] theorem left_ofLine : (ofLine words).left = boundIn words :=
  rfl

@[simp] theorem apart_ofLine :
    (ofLine words).Apart taken ↔ ∀ t ∈ chosenBy .spec (usedIn words), t ∉ taken :=
  and_iff_left trivial

@[simp] theorem bound_ofText {t : String} : (ofText t).bound = [] :=
  rfl

@[simp] theorem left_ofText {t : String} : (ofText t).left = [] :=
  rfl

@[simp] theorem apart_ofText {t : String} : (ofText t).Apart taken := by
  simp [ofText]

@[simp] theorem bound_closed :
    (closed reach closing header inner).bound = boundIn header ++ inner.bound := by
  simp [closed, bound]

@[simp] theorem left_closed :
    (closed reach closing header inner).left = reach.beyond header inner.left := by
  simp [closed, left]

@[simp] theorem apart_closed : (closed reach closing header inner).Apart taken ↔
    (∀ t ∈ chosenBy .spec (usedIn header), t ∉ taken) ∧
      inner.Apart (chosenBy .synthesis (reach.into header) ++ taken) := by
  simp [closed, Apart]

@[simp] theorem bound_block : (block header inner).bound = boundIn header ++ inner.bound := by
  simp [block]

@[simp] theorem left_block : (block header inner).left = [] := by
  simp [block, Reach.beyond]

@[simp] theorem apart_block : (block header inner).Apart taken ↔
    (∀ t ∈ chosenBy .spec (usedIn header), t ∉ taken) ∧
      inner.Apart (chosenBy .synthesis (boundIn header) ++ taken) := by
  simp [block, Reach.into]

@[simp] theorem bound_join {codes : List Code} : (join codes).bound = codes.flatMap bound := by
  induction codes with
  | nil => rfl
  | cons code codes ih =>
    change (code ++ join codes).bound = _
    rw [bound_append, ih, List.flatMap_cons]

/-- What is bound next goes in front of what is known before. -/
theorem append_subset_append {α : Type} {xs ys : List α} (bound : List α) (h : xs ⊆ ys) :
    bound ++ xs ⊆ bound ++ ys :=
  List.append_subset.mpr
    ⟨List.subset_append_left bound ys, List.subset_append_of_subset_right bound h⟩

/-- Fewer names are easier to be apart from. -/
theorem Apart.mono {taken' : List String} (h : code.Apart taken') (hsub : taken ⊆ taken') :
    code.Apart taken := by
  induction code generalizing taken taken' with
  | done => trivial
  | line words rest ih =>
    exact ⟨fun t ht hmem => h.1 t ht (hsub hmem), ih h.2 (append_subset_append _ hsub)⟩
  | group reach header inner rest ihInner ihRest =>
    exact ⟨fun t ht hmem => h.1 t ht (hsub hmem), ihInner h.2.1 (append_subset_append _ hsub),
      ihRest h.2.2 (append_subset_append _ hsub)⟩

/-- The code is apart from these texts, and what it leaves of the synthesis' own is among them. -/
structure Within (taken : List String) (code : Code) : Prop where
  apart : code.Apart taken
  left_subset : chosenBy .synthesis code.left ⊆ taken

namespace Within

theorem done : Within taken done :=
  ⟨trivial, List.nil_subset _⟩

theorem ofText {t : String} : Within taken (ofText t) :=
  ⟨apart_ofText, List.nil_subset _⟩

theorem ofLine (hused : ∀ t ∈ chosenBy .spec (usedIn words), t ∉ taken)
    (hbound : chosenBy .synthesis (boundIn words) ⊆ taken) : Within taken (ofLine words) :=
  ⟨apart_ofLine.mpr hused, hbound⟩

/-- What the code leaves is among the texts that the other code is apart from. -/
theorem append (h : Within taken code) (h' : Within taken code') :
    Within taken (code ++ code') := by
  constructor
  · rw [apart_append]
    exact ⟨h.apart, h'.apart.mono (List.append_subset.mpr ⟨h.left_subset, List.Subset.refl _⟩)⟩
  · rw [left_append, chosenBy_append]
    exact List.append_subset.mpr ⟨h'.left_subset, h.left_subset⟩

theorem join {codes : List Code} (h : ∀ code ∈ codes, Within taken code) :
    Within taken (join codes) := by
  induction codes with
  | nil => exact done
  | cons code codes ih =>
    obtain ⟨hcode, hcodes⟩ := List.forall_mem_cons.mp h
    exact hcode.append (ih hcodes)

end Within

/-! ## 5. Names that are known -/

/-- Every name is known where it is used.  `known` are those that are known before. -/
def Grounded (known : List Name) (code : Code) : Prop :=
  ∀ use ∈ code.uses known, use.name ∈ use.known

theorem forall_usedIn_known_iff :
    (∀ use ∈ (usedIn words).map (fun n => (⟨n, known⟩ : Use)), use.name ∈ use.known) ↔
      ∀ n ∈ usedIn words, n ∈ known :=
  List.forall_mem_map

@[simp] theorem grounded_done : Grounded known done :=
  fun _ huse => absurd huse List.not_mem_nil

theorem grounded_line {rest : Code} : Grounded known (line words rest) ↔
    (∀ n ∈ usedIn words, n ∈ known) ∧ Grounded (boundIn words ++ known) rest := by
  unfold Grounded
  rw [uses, List.forall_mem_append, forall_usedIn_known_iff]

theorem grounded_group {rest : Code} : Grounded known (group reach header inner rest) ↔
    (∀ n ∈ usedIn header, n ∈ known) ∧ Grounded (reach.into header ++ known) inner ∧
      Grounded (reach.beyond header inner.left ++ known) rest := by
  unfold Grounded
  rw [uses, List.forall_mem_append, List.forall_mem_append, forall_usedIn_known_iff, and_assoc]

/-- Code behind other code knows what that leaves. -/
@[simp] theorem grounded_append : Grounded known (code ++ code') ↔
    Grounded known code ∧ Grounded (code.left ++ known) code' := by
  change Grounded known (code.append code') ↔ _
  induction code generalizing known with
  | done => simp [append, left]
  | line words rest ih => simp [append, left, grounded_line, ih, and_assoc]
  | group reach header inner rest _ ih => simp [append, left, grounded_group, ih, and_assoc]

@[simp] theorem grounded_ofLine :
    Grounded known (ofLine words) ↔ ∀ n ∈ usedIn words, n ∈ known := by
  simp [ofLine, grounded_line]

@[simp] theorem grounded_ofText {t : String} : Grounded known (ofText t) := by
  simp [ofText]

@[simp] theorem grounded_closed : Grounded known (closed reach closing header inner) ↔
    (∀ n ∈ usedIn header, n ∈ known) ∧ Grounded (reach.into header ++ known) inner := by
  simp [closed, grounded_group]

@[simp] theorem grounded_block : Grounded known (block header inner) ↔
    (∀ n ∈ usedIn header, n ∈ known) ∧ Grounded (boundIn header ++ known) inner := by
  simp [block, Reach.into]

/-- What is known is still known when more is. -/
theorem Grounded.mono {known' : List Name} (h : Grounded known code) (hsub : known ⊆ known') :
    Grounded known' code := by
  induction code generalizing known known' with
  | done => exact grounded_done
  | line words rest ih =>
    rw [grounded_line] at h ⊢
    exact ⟨fun n hn => hsub (h.1 n hn), ih h.2 (append_subset_append _ hsub)⟩
  | group reach header inner rest ihInner ihRest =>
    rw [grounded_group] at h ⊢
    exact ⟨fun n hn => hsub (h.1 n hn), ihInner h.2.1 (append_subset_append _ hsub),
      ihRest h.2.2 (append_subset_append _ hsub)⟩

theorem Grounded.join {codes : List Code} (h : ∀ code ∈ codes, Grounded known code) :
    Grounded known (join codes) := by
  induction codes with
  | nil => exact grounded_done
  | cons code codes ih =>
    obtain ⟨hcode, hcodes⟩ := List.forall_mem_cons.mp h
    have hrest := (ih hcodes).mono (List.subset_append_right code.left known)
    exact grounded_append.mpr ⟨hcode, hrest⟩

/-- What one piece of code leaves is left by all of them. -/
theorem mem_left_join {codes : List Code} {n : Name} (hcode : code ∈ codes) (hn : n ∈ code.left) :
    n ∈ (join codes).left := by
  induction codes with
  | nil => exact absurd hcode List.not_mem_nil
  | cons first codes ih =>
    change n ∈ (first ++ join codes).left
    rw [left_append, List.mem_append]
    rcases List.mem_cons.mp hcode with rfl | hcode
    · exact .inr hn
    · exact .inl (ih hcode)

end Code

end Carryover.Source
