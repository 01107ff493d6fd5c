/-
# The grammar of documents

The grammar of JSON as relations between trees and symbols, one rule for each way to write a thing.
`Tree.Spelled t s rest` says that the symbols `s` begin with a value that is written out in the tree
`t`, and that `rest` follows it; the other relations are read the same way.  White space may stand
in front of every token, and behind the value of a document (`Tree.IsDocument`).

Nothing here reads: a text may be cut in more than one way until one asks what follows.
-/
import Carryover.Proofs.Json.Spelling

namespace Carryover.Json

/-! ## 1. White space -/

/-- White space, and then `rest`. -/
def Blank (s rest : List Symbol) : Prop :=
  ∃ blanks, (∀ x ∈ blanks, isSpace x = true) ∧ s = blanks ++ rest

theorem blank_refl (s : List Symbol) : Blank s s :=
  ⟨[], nofun, rfl⟩

theorem Blank.trans {s t u : List Symbol} (h : Blank s t) (h' : Blank t u) : Blank s u := by
  obtain ⟨as, has, rfl⟩ := h
  obtain ⟨bs, hbs, rfl⟩ := h'
  refine ⟨as ++ bs, ?_, (List.append_assoc as bs u).symm⟩
  intro x hx
  rcases List.mem_append.mp hx with hx | hx
  · exact has x hx
  · exact hbs x hx

theorem Blank.length_le {s rest : List Symbol} (h : Blank s rest) : rest.length ≤ s.length := by
  obtain ⟨blanks, -, rfl⟩ := h
  rw [List.length_append]
  omega

/-! ## 2. Numbers -/

/-- The digits, and then `rest`. -/
def DigitsSpelled (ds : List (Fin 10)) (s rest : List Symbol) : Prop :=
  s = symbols (printDigits ds) ++ rest

/-- The digits before the point: a zero alone, or any others that do not begin with one. -/
def WholeSpelled (ds : List (Fin 10)) (s rest : List Symbol) : Prop :=
  DigitsSpelled ds s rest ∧ ds ≠ [] ∧ (ds.head?.map Fin.val = some 0 → ds.length = 1)

/-- A point with digits behind it, or nothing. -/
inductive FractionSpelled : List (Fin 10) → List Symbol → List Symbol → Prop
  | absent (s : List Symbol) : FractionSpelled [] s s
  | point {ds : List (Fin 10)} {s rest : List Symbol} (digits : DigitsSpelled ds s rest)
      (nonempty : ds ≠ []) : FractionSpelled ds (.char '.' :: s) rest

/-- The sign of an exponent; a plus sign may be left out. -/
inductive SignSpelled : Bool → List Symbol → List Symbol → Prop
  | absent (s : List Symbol) : SignSpelled false s s
  | plus (s : List Symbol) : SignSpelled false (.char '+' :: s) s
  | minus (s : List Symbol) : SignSpelled true (.char '-' :: s) s

/-- An exponent behind its mark, or nothing. -/
inductive ExponentSpelled : Option Exponent → List Symbol → List Symbol → Prop
  | absent (s : List Symbol) : ExponentSpelled none s s
  | marked {mark : Char} {e : Exponent} {s digits rest : List Symbol} (mark_eq : mark ∈ ['e', 'E'])
      (sign : SignSpelled e.isNegative s digits) (spelled : DigitsSpelled e.digits digits rest)
      (nonempty : e.digits ≠ []) : ExponentSpelled (some e) (.char mark :: s) rest

/-- A number behind its sign. -/
def Literal.SpelledUnsigned (l : Literal) (s rest : List Symbol) : Prop :=
  ∃ fraction exponent, WholeSpelled l.whole s fraction ∧
    FractionSpelled l.fraction fraction exponent ∧ ExponentSpelled l.exponent exponent rest

/-- A number; only a minus sign may stand in front. -/
inductive Literal.Spelled : Literal → List Symbol → List Symbol → Prop
  | plain {l : Literal} {s rest : List Symbol} (sign : l.isNegative = false)
      (digits : l.SpelledUnsigned s rest) : Literal.Spelled l s rest
  | minus {l : Literal} {s rest : List Symbol} (sign : l.isNegative = true)
      (digits : l.SpelledUnsigned s rest) : Literal.Spelled l (.char '-' :: s) rest

/-! ## 3. Texts -/

/-- A hexadecimal digit in either case. -/
def HexSpelled (d : Fin 16) (x : Symbol) : Prop :=
  x = .char (hexDigit d) ∨ x = .char (hexDigit d).toUpper

/-- The unit of four hexadecimal digits. -/
def hexUnit (a b c d : Fin 16) : UInt16 :=
  UInt16.ofNat (((a * 16 + b : Nat) * 16 + c) * 16 + d)

/-- The units of a text, and the quote behind them. -/
inductive TextSpelled : List TextUnit → List Symbol → List Symbol → Prop
  | close (rest : List Symbol) : TextSpelled [] (.char '"' :: rest) rest
  | plain {c : Char} {us : List TextUnit} {s rest : List Symbol}
      (legible : (TextUnit.plain c).Legible) (more : TextSpelled us s rest) :
      TextSpelled (.plain c :: us) (.char c :: s) rest
  | stray {b : UInt8} {us : List TextUnit} {s rest : List Symbol} (more : TextSpelled us s rest) :
      TextSpelled (.stray b :: us) (.stray b :: s) rest
  | short {e : Short} {us : List TextUnit} {s rest : List Symbol} (more : TextSpelled us s rest) :
      TextSpelled (.short e :: us) (.char '\\' :: .char e.letter :: s) rest
  | hex {n : UInt16} {a b c d : Fin 16} {u v w x : Symbol} {us : List TextUnit}
      {s rest : List Symbol} (value : hexUnit a b c d = n) (first : HexSpelled a u)
      (second : HexSpelled b v) (third : HexSpelled c w) (fourth : HexSpelled d x)
      (more : TextSpelled us s rest) :
      TextSpelled (.hex n :: us) (.char '\\' :: .char 'u' :: u :: v :: w :: x :: s) rest

/-! ## 4. Values -/

mutual

/-- A value. -/
inductive Tree.Spelled : Tree → List Symbol → List Symbol → Prop
  | null {s rest : List Symbol} (word : Blank s (symbols "null".toList ++ rest)) :
      Tree.Spelled .null s rest
  | true {s rest : List Symbol} (word : Blank s (symbols "true".toList ++ rest)) :
      Tree.Spelled (.bool true) s rest
  | false {s rest : List Symbol} (word : Blank s (symbols "false".toList ++ rest)) :
      Tree.Spelled (.bool false) s rest
  | number {l : Literal} {s digits rest : List Symbol} (blank : Blank s digits)
      (number : l.Spelled digits rest) : Tree.Spelled (.number l) s rest
  | text {us : List TextUnit} {s units rest : List Symbol} (opening : Blank s (.char '"' :: units))
      (text : TextSpelled us units rest) : Tree.Spelled (.text us) s rest
  | noItems {s inner rest : List Symbol} (opening : Blank s (.char '[' :: inner))
      (closing : Blank inner (.char ']' :: rest)) : Tree.Spelled (.list .close) s rest
  | list {items : Items} {s inner rest : List Symbol} (opening : Blank s (.char '[' :: inner))
      (inside : items.Spelled inner rest) : Tree.Spelled (.list items) s rest
  | noMembers {s inner rest : List Symbol} (opening : Blank s (.char '\x7b' :: inner))
      (closing : Blank inner (.char '\x7d' :: rest)) : Tree.Spelled (.object .close) s rest
  | object {members : Members} {s inner rest : List Symbol}
      (opening : Blank s (.char '\x7b' :: inner)) (inside : members.Spelled inner rest) :
      Tree.Spelled (.object members) s rest

/-- One element or more, with commas between them, and the bracket behind the last. -/
inductive Items.Spelled : Items → List Symbol → List Symbol → Prop
  | last {t : Tree} {s behind rest : List Symbol} (value : t.Spelled s behind)
      (closing : Blank behind (.char ']' :: rest)) : Items.Spelled (.more t .close) s rest
  | more {t : Tree} {items : Items} {s behind next rest : List Symbol}
      (value : t.Spelled s behind) (comma : Blank behind (.char ',' :: next))
      (more : items.Spelled next rest) : Items.Spelled (.more t items) s rest

/-- A key and its value. -/
inductive Member.Spelled : List TextUnit → Tree → List Symbol → List Symbol → Prop
  | mk {key : List TextUnit} {t : Tree} {s units behind value rest : List Symbol}
      (opening : Blank s (.char '"' :: units)) (text : TextSpelled key units behind)
      (colon : Blank behind (.char ':' :: value)) (value : t.Spelled value rest) :
      Member.Spelled key t s rest

/-- One member or more, with commas between them, and the brace behind the last. -/
inductive Members.Spelled : Members → List Symbol → List Symbol → Prop
  | last {key : List TextUnit} {t : Tree} {s behind rest : List Symbol}
      (member : Member.Spelled key t s behind) (closing : Blank behind (.char '\x7d' :: rest)) :
      Members.Spelled (.more key t .close) s rest
  | more {key : List TextUnit} {t : Tree} {members : Members} {s behind next rest : List Symbol}
      (member : Member.Spelled key t s behind) (comma : Blank behind (.char ',' :: next))
      (more : members.Spelled next rest) : Members.Spelled (.more key t members) s rest

end

/-! ## 5. Documents -/

/-- The symbols are one value, with white space around it. -/
def Tree.IsDocument (t : Tree) (s : List Symbol) : Prop :=
  ∃ rest, t.Spelled s rest ∧ Blank rest []

/-! ## 6. What is spelled takes up symbols -/

section Spelled

variable {l : Literal} {ds : List (Fin 10)} {us : List TextUnit} {s rest : List Symbol}

/-- A symbol, or the symbols of a word, behind white space. -/
theorem Blank.length_lt {x : Symbol} (h : Blank s (x :: rest)) : rest.length < s.length :=
  Nat.lt_of_succ_le h.length_le

theorem Blank.length_lt_of_word {word : List Char} (h : Blank s (symbols word ++ rest))
    (hword : word ≠ []) : rest.length < s.length := by
  have hle := h.length_le
  have hpos : 0 < (symbols word).length := List.length_pos_iff.mpr (by simpa [symbols] using hword)
  rw [List.length_append] at hle
  omega

theorem DigitsSpelled.length_le (h : DigitsSpelled ds s rest) : rest.length ≤ s.length := by
  rw [h, List.length_append]
  omega

theorem FractionSpelled.length_le (h : FractionSpelled ds s rest) : rest.length ≤ s.length := by
  cases h with
  | absent => exact Nat.le_refl _
  | point digits => exact Nat.le_succ_of_le digits.length_le

theorem SignSpelled.length_le {isNegative : Bool} (h : SignSpelled isNegative s rest) :
    rest.length ≤ s.length := by
  cases h with
  | absent => exact Nat.le_refl _
  | plus => exact Nat.le_succ _
  | minus => exact Nat.le_succ _

theorem ExponentSpelled.length_le {e : Option Exponent} (h : ExponentSpelled e s rest) :
    rest.length ≤ s.length := by
  cases h with
  | absent => exact Nat.le_refl _
  | marked _ sign spelled =>
    exact Nat.le_succ_of_le (Nat.le_trans spelled.length_le sign.length_le)

theorem Literal.SpelledUnsigned.length_lt (h : l.SpelledUnsigned s rest) :
    rest.length < s.length := by
  obtain ⟨fraction, exponent, ⟨hdigits, hne, -⟩, hfraction, hexponent⟩ := h
  have hpos : 0 < l.whole.length := List.length_pos_iff.mpr hne
  have hwhole : s.length = l.whole.length + fraction.length := by
    rw [hdigits, List.length_append]
    simp [symbols, printDigits]
  have hrest := Nat.le_trans hexponent.length_le hfraction.length_le
  omega

theorem Literal.Spelled.length_lt (h : l.Spelled s rest) : rest.length < s.length := by
  cases h with
  | plain _ digits => exact digits.length_lt
  | minus _ digits => exact Nat.lt_succ_of_lt digits.length_lt

theorem TextSpelled.length_lt (h : TextSpelled us s rest) : rest.length < s.length := by
  induction h with
  | close => exact Nat.lt_succ_self _
  | plain _ _ ih => exact Nat.lt_succ_of_lt ih
  | stray _ ih => exact Nat.lt_succ_of_lt ih
  | short _ ih => exact Nat.lt_succ_of_lt (Nat.lt_succ_of_lt ih)
  | hex _ _ _ _ _ _ ih =>
    simp only [List.length_cons]
    omega

end Spelled

mutual

/-- A value takes up symbols. -/
theorem Tree.Spelled.length_lt {t : Tree} {s rest : List Symbol} :
    t.Spelled s rest → rest.length < s.length
  | .null word => word.length_lt_of_word (by decide)
  | .true word => word.length_lt_of_word (by decide)
  | .false word => word.length_lt_of_word (by decide)
  | .number blank number => Nat.lt_of_lt_of_le number.length_lt blank.length_le
  | .text opening text => Nat.lt_trans text.length_lt opening.length_lt
  | .noItems opening closing => Nat.lt_trans closing.length_lt opening.length_lt
  | .list opening inside => Nat.lt_trans inside.length_lt opening.length_lt
  | .noMembers opening closing => Nat.lt_trans closing.length_lt opening.length_lt
  | .object opening inside => Nat.lt_trans inside.length_lt opening.length_lt

theorem Items.Spelled.length_lt {items : Items} {s rest : List Symbol} :
    items.Spelled s rest → rest.length < s.length
  | .last value closing => Nat.lt_trans closing.length_lt value.length_lt
  | .more value comma more =>
    Nat.lt_trans more.length_lt (Nat.lt_trans comma.length_lt value.length_lt)

theorem Member.Spelled.length_lt {key : List TextUnit} {t : Tree} {s rest : List Symbol} :
    Member.Spelled key t s rest → rest.length < s.length
  | ⟨opening, text, colon, value⟩ => by
    have hkey := Nat.lt_trans text.length_lt opening.length_lt
    exact Nat.lt_trans value.length_lt (Nat.lt_trans colon.length_lt hkey)

theorem Members.Spelled.length_lt {members : Members} {s rest : List Symbol} :
    members.Spelled s rest → rest.length < s.length
  | .last member closing => Nat.lt_trans closing.length_lt member.length_lt
  | .more member comma more =>
    Nat.lt_trans more.length_lt (Nat.lt_trans comma.length_lt member.length_lt)

end

end Carryover.Json
