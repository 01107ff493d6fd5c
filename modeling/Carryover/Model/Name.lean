/-
# Names a spec may use

Identifiers, paths of identifiers, and the names that synthesised code binds itself.
-/
import Carryover.Text.Word

namespace Carryover

/-! ## 1. Identifiers -/

/-- The words of the generated language that are never identifiers. -/
def keywords : List String := [
  "as", "async", "await", "break", "const", "continue", "crate", "dyn", "else", "enum",
  "extern", "false", "fn", "for", "if", "impl", "in", "let", "loop", "match", "mod", "move",
  "mut", "pub", "ref", "return", "self", "Self", "static", "struct", "super", "trait", "true",
  "type", "unsafe", "use", "where", "while"]

/-- A word that does not begin with a digit, is not a lone underscore and no keyword. -/
def isIdentifier (s : String) : Bool :=
  match s.toList with
  | [] => false
  | c :: cs =>
    Text.isWordStart c && cs.all Text.isWordChar && s != "_" && !keywords.contains s

/-! ## 2. Paths -/

/-- The parts of a text between double colons, taken from the left. -/
def pathSegments : List Char → List (List Char)
  | [] => [[]]
  | ':' :: ':' :: cs => [] :: pathSegments cs
  | c :: cs =>
    match pathSegments cs with
    | [] => [[c]]
    | segment :: segments => (c :: segment) :: segments

/-- The text without the double colon that roots it, if it has one. -/
def dropRoot : List Char → List Char
  | ':' :: ':' :: cs => cs
  | cs => cs

/-- The keywords with which a path may begin. -/
def pathStarts : List String := ["crate", "self", "super"]

/-- Identifiers between double colons, with at most one double colon in front; the first segment
may also be one of `pathStarts`. -/
def isPath (s : String) : Bool :=
  match (pathSegments (dropRoot s.toList)).map String.ofList with
  | [] => false
  | first :: rest =>
    (isIdentifier first || pathStarts.contains first) && rest.all isIdentifier

/-! ## 3. Reserved names -/

/-- The names that synthesised code binds as parameters or locals beside the names of fields and
parameters. -/
def reservedNames : List String := [
  "c", "this", "component", "state_update", "state_container", "new_component",
  "lazy_update_value", "spec"]

end Carryover
