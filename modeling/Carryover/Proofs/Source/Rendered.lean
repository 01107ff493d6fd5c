/-
# Rendered lines

`renderLines` as a text of characters: line by line (`toList_renderLines_cons`), each line with its
margin and its break (`toList_render`), and lines one level further in as lines at the next depth
(`renderLines_indent`).  A rendered piece is empty or ends in a break
(`getLast?_renderLines`), so what is rendered behind it begins on a line of its own.

`Stands` is that lines are found in a source, one below the other and nothing between them.
-/
import Mathlib.Data.List.Basic
import Carryover.Source.Line

namespace Carryover.Source

/-! ## 1. Pieces -/

@[simp] theorem renderLines_nil (n : Nat) : renderLines n [] = "" :=
  rfl

theorem renderLines_cons (n : Nat) (l : Line) (ls : List Line) :
    renderLines n (l :: ls) = render (n + l.depth) l.text ++ renderLines n ls := by
  unfold renderLines
  rw [List.map_cons, String.join_cons]

theorem renderLines_append (n : Nat) (ls ls' : List Line) :
    renderLines n (ls ++ ls') = renderLines n ls ++ renderLines n ls' := by
  unfold renderLines
  rw [List.map_append, String.join_append]

/-- Lines that are made of several things are rendered one thing after the other. -/
theorem renderLines_flatMap {α : Type} (n : Nat) (g : α → List Line) (xs : List α) :
    renderLines n (xs.flatMap g) = String.join (xs.map fun x => renderLines n (g x)) := by
  induction xs with
  | nil => rfl
  | cons x xs ih => rw [List.flatMap_cons, renderLines_append, ih, List.map_cons, String.join_cons]

/-- A line that is not empty has its margin and its break. -/
theorem render_of_ne {text : String} (h : text ≠ "") (depth : Nat) :
    render depth text = margin depth ++ text ++ "\n" := by
  unfold render
  rw [if_neg (by simpa using h)]

/-- One line. -/
theorem renderLines_line (n : Nat) (text : String) : renderLines n (line text) = render n text := by
  unfold line
  rw [renderLines_cons, renderLines_nil, String.append_empty]
  rfl

/-- **Lines one level further in** are the same lines at the next depth. -/
theorem renderLines_indent (n : Nat) (ls : List Line) :
    renderLines n (indent ls) = renderLines (n + 1) ls := by
  unfold renderLines indent
  rw [List.map_map]
  refine congrArg String.join (List.map_congr_left fun l _ => ?_)
  have hdepth : n + (l.depth + 1) = n + 1 + l.depth := by omega
  exact congrArg (fun depth => render depth l.text) hdepth

/-! ## 2. Characters -/

/-- The characters of a line, without its break. -/
def shown (depth : Nat) (text : String) : List Char :=
  if text = "" then [] else List.replicate (4 * depth) ' ' ++ text.toList

/-- A line is what it shows, and a break. -/
theorem toList_render (depth : Nat) (text : String) :
    (render depth text).toList = shown depth text ++ ['\n'] := by
  unfold render shown
  by_cases h : text = ""
  · have hempty : text.isEmpty = true := by simpa using h
    rw [if_pos hempty, if_pos h]
    rfl
  · have hempty : ¬ text.isEmpty = true := by simpa using h
    rw [if_neg hempty, if_neg h]
    simp [margin]

theorem toList_renderLines_cons (n : Nat) (l : Line) (ls : List Line) :
    (renderLines n (l :: ls)).toList
      = shown (n + l.depth) l.text ++ '\n' :: (renderLines n ls).toList := by
  rw [renderLines_cons, String.toList_append, toList_render, List.append_assoc,
    List.singleton_append]

/-- What a line shows has a break only if its text has one. -/
theorem not_mem_shown {depth : Nat} {text : String} (h : '\n' ∉ text.toList) :
    '\n' ∉ shown depth text := by
  unfold shown
  split
  · exact List.not_mem_nil
  · intro hmem
    rcases List.mem_append.mp hmem with hmargin | htext
    · exact absurd (List.eq_of_mem_replicate hmargin) (by decide)
    · exact h htext

/-- Behind a rendered piece a line begins. -/
theorem getLast?_renderLines (n : Nat) (ls : List Line) :
    ∀ c ∈ (renderLines n ls).toList.getLast?, c = '\n' := by
  induction ls with
  | nil => exact nofun
  | cons l ls ih =>
    rw [toList_renderLines_cons, List.getLast?_append]
    intro c hc
    cases hrest : (renderLines n ls).toList with
    | nil =>
      rw [hrest] at hc
      simpa using hc.symm
    | cons d ds =>
      rw [hrest] at hc ih
      refine ih c ?_
      simpa [List.getLast?_cons_cons] using hc

/-! ## 3. Lines in a source -/

/-- The source has these lines, one below the other. -/
def Stands (lines : List Line) (source : String) : Prop :=
  ∃ above below, source = renderLines 0 (above ++ lines ++ below)

variable {lines all body : List Line} (header : String)

/-- Lines stand where they are rendered. -/
theorem stands_of_infix (h : lines <:+: all) : Stands lines (renderLines 0 all) := by
  obtain ⟨above, below, rfl⟩ := h
  exact ⟨above, below, rfl⟩

/-- Lines one level further in stand where lines are rendered at the next depth. -/
theorem stands_indent_of_infix (h : lines <:+: all) :
    Stands (indent lines) (renderLines 1 all) := by
  rw [← renderLines_indent]
  exact stands_of_infix (h.map _)

/-- A block begins with its header. -/
theorem opening_infix_block : line (opening header) <:+: block header body :=
  ⟨[], indent body ++ line "\x7d", rfl⟩

/-- The body stands in its block. -/
theorem indent_infix_block (h : lines <:+: body) : indent lines <:+: block header body := by
  have hbody : indent lines <:+: indent body := h.map _
  exact hbody.trans ⟨line (opening header), line "\x7d", rfl⟩

end Carryover.Source
