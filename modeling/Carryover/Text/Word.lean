/-
# Words

A word is a run of ASCII letters, ASCII digits and underscores; every other character, also
every letter beyond ASCII, separates words.  `mentions` asks whether a text has a given word.
-/
import Carryover.Text.Split

namespace Carryover.Text

/-- May the character stand in a word? -/
def isWordChar (c : Char) : Bool :=
  c == '_' || c.isAlphanum

/-- May the character begin a name? -/
def isWordStart (c : Char) : Bool :=
  c == '_' || c.isAlpha

/-- The parts between the separators of a text; two neighbouring separators have an empty part
between them. -/
def wordsOf (cs : List Char) : List (List Char) :=
  split (fun c => !isWordChar c) cs

/-- Does `text` hold `word` as one whole part between separators? -/
def mentions (text word : String) : Bool :=
  (wordsOf text.toList).contains word.toList

end Carryover.Text
