/-
# Lines of source text

A piece of source is a list of lines, each at a depth; four spaces show one level.  The
combinators keep depth and nesting together: `indent` moves lines one level in, and `block`
puts them between a header with an opening brace and a closing brace.
-/
namespace Carryover.Source

/-- A line of source, without indentation and without its line break. -/
structure Line where
  depth : Nat
  text : String
  deriving DecidableEq, Repr

/-- The spaces before a line at that depth. -/
def margin (depth : Nat) : String :=
  String.ofList (List.replicate (4 * depth) ' ')

/-- A line as it stands in the text; an empty one has no margin. -/
def render (depth : Nat) (text : String) : String :=
  if text.isEmpty then "\n" else margin depth ++ text ++ "\n"

/-- The text of lines that stand at `depth` and deeper. -/
def renderLines (depth : Nat) (lines : List Line) : String :=
  String.join (lines.map fun l => render (depth + l.depth) l.text)

/-- One line. -/
def line (text : String) : List Line :=
  [⟨0, text⟩]

/-- An empty line. -/
def blank : List Line :=
  line ""

/-- A line of documentation. -/
def docText (text : String) : String :=
  if text.isEmpty then "///" else "/// " ++ text

/-- A line of documentation. -/
def doc (text : String) : List Line :=
  line (docText text)

/-- The lines one level further in. -/
def indent (lines : List Line) : List Line :=
  lines.map fun l => { l with depth := l.depth + 1 }

/-- A header with the brace that it opens. -/
def opening (header : String) : String :=
  header ++ " \x7b"

/-- Lines between a header and a closing text. -/
def blockUntil (closing header : String) (body : List Line) : List Line :=
  line (opening header) ++ indent body ++ line closing

/-- Lines between a header and a closing brace. -/
def block (header : String) (body : List Line) : List Line :=
  blockUntil "\x7d" header body

end Carryover.Source
