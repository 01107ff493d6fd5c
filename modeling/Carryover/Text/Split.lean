/-
# Cutting a text at separators

`split` and `cutAt` keep every part, also the empty ones; `lines` is the cut into lines that a
reader sees, in which a final line break ends the last line and a carriage return before a line
feed belongs to the break.
-/
namespace Carryover.Text

/-- The parts between the characters that satisfy `isSeparator`: one more than there are
separators. -/
def split (isSeparator : Char → Bool) : List Char → List (List Char)
  | [] => [[]]
  | c :: cs =>
    if isSeparator c then [] :: split isSeparator cs
    else
      match split isSeparator cs with
      | [] => [[c]]
      | part :: parts => (c :: part) :: parts

/-- The parts of a text between the places of one character. -/
def cutAt (c : Char) (s : String) : List String :=
  (split (· == c) s.toList).map String.ofList

/-- The line without the carriage return that its break began with. -/
def dropReturn (line : List Char) : List Char :=
  if line.getLast? = some '\r' then line.dropLast else line

/-- The lines of parts that line feeds separate: all but the last part end in a break, and the
last part is a line only if it holds something. -/
def linesOfParts : List (List Char) → List (List Char)
  | [] => []
  | [last] => if last.isEmpty then [] else [last]
  | line :: parts => dropReturn line :: linesOfParts parts

/-- The lines of a text.  A carriage return counts as part of a break only before a line
feed. -/
def lines (cs : List Char) : List (List Char) :=
  linesOfParts (split (· == '\n') cs)

end Carryover.Text
