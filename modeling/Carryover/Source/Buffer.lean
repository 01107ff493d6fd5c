/-
# A buffer of source lines

Source text that grows at its end, with a current level of indentation.  Every operation
appends and never changes what is there; the level goes down to zero and no further.
-/
import Carryover.Source.Line
import Carryover.Text.Split

namespace Carryover.Source

/-- Source text and the level at which the next line stands. -/
structure Buffer where
  text : String
  level : Nat
  deriving DecidableEq, Repr

namespace Buffer

/-! ## 1. Starting -/

/-- An empty buffer. -/
def empty : Buffer :=
  ⟨"", 0⟩

/-- An empty buffer for lines at that level. -/
def fragment (level : Nat) : Buffer :=
  ⟨"", level⟩

/-! ## 2. Appending -/

/-- Appends a text as it is. -/
def raw (b : Buffer) (source : String) : Buffer :=
  { b with text := b.text ++ source }

/-- Appends one line at the current level. -/
def line (b : Buffer) (text : String) : Buffer :=
  b.raw (render b.level text)

/-- Appends an empty line. -/
def blank (b : Buffer) : Buffer :=
  b.raw "\n"

/-- Appends a line of documentation. -/
def docComment (b : Buffer) (text : String) : Buffer :=
  b.line (docText text)

/-- Lets the following lines stand one level further in. -/
def indent (b : Buffer) : Buffer :=
  { b with level := b.level + 1 }

/-- Takes one level back. -/
def dedent (b : Buffer) : Buffer :=
  { b with level := b.level - 1 }

/-- Appends a header with an opening brace and goes one level in. -/
def openBlock (b : Buffer) (header : String) : Buffer :=
  (b.line (opening header)).indent

/-- Takes one level back and appends a closing text. -/
def closeWith (b : Buffer) (closing : String) : Buffer :=
  b.dedent.line closing

/-- Takes one level back and appends a closing brace. -/
def close (b : Buffer) : Buffer :=
  b.closeWith "\x7d"

/-! ## 3. Headers -/

/-- A line of a header comment. -/
def commentLine (text : List Char) : String :=
  if text.isEmpty then "//" else "// " ++ String.ofList text

/-- A buffer that begins with the lines of `header` as comments and an empty line. -/
def withHeader (header : String) : Buffer :=
  ((Text.lines header.toList).foldl (fun b l => b.line (commentLine l)) empty).blank

end Buffer

end Carryover.Source
