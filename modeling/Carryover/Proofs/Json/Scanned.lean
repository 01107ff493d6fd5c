/-
# Tokens are read as the grammar has them

For each part of a number and for texts, two directions: what the reader took off the front of the
symbols was spelled there (`spelled_of_read*`), and what is spelled there is read (`*.read*_eq`).

A reader takes all digits that it finds.  So digits that are spelled are only read if none follows
(`NoDigit`), and a number only where neither a digit nor a point nor an exponent could go on
(`EndsNumber`).  Texts end with their quote, whatever follows.
-/
import Carryover.Proofs.Json.Grammar
import Carryover.Proofs.Text.Case

namespace Carryover.Json

/-! ## 1. White space -/

/-- A reader skips white space. -/
theorem blank_skipSpace (s : List Symbol) : Blank s (skipSpace s) :=
  ⟨s.takeWhile isSpace, List.all_eq_true.mp List.all_takeWhile,
    List.takeWhile_append_dropWhile.symm⟩

/-- It skips all of it. -/
theorem Blank.skipSpace_eq {s rest : List Symbol} (h : Blank s rest) :
    skipSpace s = skipSpace rest := by
  obtain ⟨blanks, hblanks, rfl⟩ := h
  induction blanks with
  | nil => rfl
  | cons x blanks ih =>
    obtain ⟨hx, hblanks⟩ := List.forall_mem_cons.mp hblanks
    exact (List.dropWhile_cons_of_pos hx).trans (ih hblanks)

/-- Before other symbols no white space is skipped. -/
theorem skipSpace_eq_self {x : Symbol} (h : isSpace x = false) (s : List Symbol) :
    skipSpace (x :: s) = x :: s :=
  List.dropWhile_cons_of_neg (by rw [h]; decide)

/-- Up to a symbol that is no white space. -/
theorem Blank.skipSpace_cons {s rest : List Symbol} {x : Symbol} (h : Blank s (x :: rest))
    (hx : isSpace x = false) : skipSpace s = x :: rest :=
  h.skipSpace_eq.trans (skipSpace_eq_self hx rest)

/-- The front of what was skipped to. -/
theorem blank_of_skipSpace {s rest : List Symbol} (h : skipSpace s = rest) : Blank s rest :=
  h ▸ blank_skipSpace s

/-- What was read, and what was left behind it. -/
theorem read_ok_inj {ε α : Type} {a b : α} {s rest : List Symbol}
    (h : (a, (.ok s : Except ε (List Symbol))) = (b, .ok rest)) : a = b ∧ s = rest :=
  ⟨(Prod.mk.inj h).1, Except.ok.inj (Prod.mk.inj h).2⟩

/-! ## 2. Digits -/

theorem toNat_lt_of_isDigit {c : Char} (h : c.isDigit = true) : c.toNat < 128 := by
  have hle : c.val ≤ 57 := by
    simp only [Char.isDigit, Bool.and_eq_true, decide_eq_true_eq] at h
    exact h.2
  exact Nat.lt_of_le_of_lt (UInt32.le_iff_toNat_le.mp hle) (by decide)

/-- **A digit is read where it is spelled.** -/
theorem digit?_eq_some_iff {x : Symbol} {d : Fin 10} :
    digit? x = some d ↔ x = .char (Char.ofNat (48 + d)) := by
  constructor
  · intro h
    cases x with
    | stray b => exact absurd h nofun
    | char c =>
      have hdigit : c.isDigit = true := by
        rw [← Bool.not_eq_false]
        intro hno
        exact absurd h (by simp [digit?, hno])
      have hfirst : ∀ d n, n < 128 →
          digit? (.char (Char.ofNat n)) = some d → Char.ofNat n = Char.ofNat (48 + d) := by
        decide
      have hspelled := Text.forall_lt_toNat (P := fun c => digit? (.char c) = some d → c = _)
        (hfirst d) (toNat_lt_of_isDigit hdigit)
      exact congrArg Symbol.char (hspelled h)
  · rintro rfl
    revert d
    decide

/-- No digit comes first. -/
def NoDigit (s : List Symbol) : Prop :=
  ∀ x ∈ s.head?, digit? x = none

/-- **The digits at the front are those that are spelled there**, up to something else. -/
theorem spanDigits_eq_iff {ds : List (Fin 10)} {s rest : List Symbol} :
    spanDigits s = (ds, rest) ↔ DigitsSpelled ds s rest ∧ NoDigit rest := by
  induction s generalizing ds with
  | nil =>
    unfold spanDigits DigitsSpelled
    constructor
    · rintro h
      obtain ⟨rfl, rfl⟩ := Prod.mk.inj h
      exact ⟨rfl, nofun⟩
    · rintro ⟨h, -⟩
      obtain ⟨hds, rfl⟩ := List.append_eq_nil_iff.mp h.symm
      cases ds with
      | nil => rfl
      | cons d ds => exact absurd hds nofun
  | cons x s ih =>
    unfold spanDigits
    cases hx : digit? x with
    | none =>
      constructor
      · intro h
        obtain ⟨rfl, rfl⟩ := Prod.mk.inj h
        exact ⟨rfl, fun y hy => by obtain rfl := Option.some.inj hy; exact hx⟩
      · rintro ⟨h, -⟩
        cases ds with
        | nil => exact congrArg (Prod.mk []) h
        | cons d ds =>
          have hspelled : x = .char (Char.ofNat (48 + d)) := (List.cons.inj h).1
          rw [digit?_eq_some_iff.mpr hspelled] at hx
          exact absurd hx nofun
    | some d =>
      have hspelled := digit?_eq_some_iff.mp hx
      constructor
      · intro h
        obtain ⟨rfl, hrest⟩ := Prod.mk.inj h
        obtain ⟨hs, hend⟩ := ih.mp (Prod.ext (rfl : (spanDigits s).1 = _) hrest)
        refine ⟨?_, hend⟩
        rw [DigitsSpelled] at hs
        rw [DigitsSpelled, hspelled]
        exact congrArg (List.cons _) hs
      · rintro ⟨h, hend⟩
        cases ds with
        | nil =>
          obtain rfl : x :: s = rest := h
          have hnone : digit? x = none := hend x rfl
          rw [hx] at hnone
          exact absurd hnone nofun
        | cons e ds =>
          obtain ⟨he, hs⟩ := List.cons.inj h
          have hde : some d = some e := hx.symm.trans (digit?_eq_some_iff.mpr he)
          obtain rfl : d = e := Option.some.inj hde
          have hspan := ih.mpr ⟨hs, hend⟩
          simp only [hspan]

/-! ## 3. Numbers -/

section Numbers

variable {l : Literal} {ds : List (Fin 10)} {e : Option Exponent} {s rest : List Symbol}

/-- The digits before the point. -/
theorem readWhole_eq_ok_iff :
    readWhole s = .ok (ds, rest) ↔ WholeSpelled ds s rest ∧ NoDigit rest := by
  unfold readWhole WholeSpelled
  rw [and_right_comm, ← spanDigits_eq_iff]
  rcases spanDigits s with ⟨found, behind⟩
  split
  case h_1 hfound =>
    obtain ⟨rfl, rfl⟩ := Prod.mk.inj hfound
    constructor
    · exact nofun
    · rintro ⟨h, hne, -⟩
      exact absurd (Prod.mk.inj h).1.symm hne
  case h_2 hfound =>
    obtain ⟨rfl, rfl⟩ := Prod.mk.inj hfound
    constructor
    · exact nofun
    · rintro ⟨h, -, hone⟩
      obtain ⟨rfl, -⟩ := Prod.mk.inj h
      exact absurd (hone rfl) (Nat.succ_succ_ne_one _)
  case h_3 hne hzero hfound =>
    obtain ⟨rfl, rfl⟩ := Prod.mk.inj hfound
    constructor
    · intro h
      obtain ⟨rfl, rfl⟩ := Prod.mk.inj (Except.ok.inj h)
      refine ⟨rfl, hne, fun hhead => ?_⟩
      rcases found with _ | ⟨d, _ | ⟨d', more⟩⟩
      · exact absurd rfl hne
      · rfl
      · obtain rfl : d = 0 := Fin.ext (Option.some.inj hhead)
        exact absurd rfl (hzero d' more)
    · rintro ⟨h, -, -⟩
      exact congrArg Except.ok h

/-- The digits behind the point. -/
theorem spelled_of_readFraction (h : readFraction s = .ok (ds, rest)) :
    FractionSpelled ds s rest := by
  unfold readFraction at h
  split at h
  · split at h
    · exact absurd h nofun
    · next hne hspan =>
      obtain ⟨rfl, rfl⟩ := Prod.mk.inj (Except.ok.inj h)
      exact .point (spanDigits_eq_iff.mp hspan).1 hne
  · obtain ⟨rfl, rfl⟩ := Prod.mk.inj (Except.ok.inj h)
    exact .absent s

theorem FractionSpelled.readFraction_eq (h : FractionSpelled ds s rest) (hdigit : NoDigit rest)
    (hpoint : rest.head? ≠ some (.char '.')) : readFraction s = .ok (ds, rest) := by
  cases h with
  | absent =>
    unfold readFraction
    split
    · exact absurd rfl hpoint
    · rfl
  | point digits nonempty =>
    unfold readFraction
    simp only [spanDigits_eq_iff.mpr ⟨digits, hdigit⟩]

/-- The sign of an exponent is spelled in front of what it is followed by. -/
theorem spelled_readSign (s : List Symbol) : SignSpelled (readSign s).1 s (readSign s).2 := by
  unfold readSign
  split
  · exact .plus _
  · exact .minus _
  · exact .absent s

/-- A sign in front of digits is read. -/
theorem SignSpelled.readSign_eq {isNegative : Bool} {s digits : List Symbol}
    (h : SignSpelled isNegative s digits) {d : Fin 10}
    (hdigit : digits.head? = some (.char (Char.ofNat (48 + d)))) :
    readSign s = (isNegative, digits) := by
  cases h with
  | plus => rfl
  | minus => rfl
  | absent =>
    have hne : ∀ d : Fin 10, Char.ofNat (48 + d) ≠ '+' ∧ Char.ofNat (48 + d) ≠ '-' := by decide
    unfold readSign
    split
    · exact absurd (Symbol.char.inj (Option.some.inj hdigit)).symm (hne d).1
    · exact absurd (Symbol.char.inj (Option.some.inj hdigit)).symm (hne d).2
    · rfl

/-- The exponent behind its mark. -/
theorem spelled_of_readExponentDigits {mark : Char} (hmark : mark ∈ ['e', 'E'])
    (h : readExponentDigits s = .ok (e, rest)) : ExponentSpelled e (.char mark :: s) rest := by
  unfold readExponentDigits at h
  have hsign := spelled_readSign s
  rcases readSign s with ⟨isNegative, digits⟩
  simp only at h hsign
  split at h
  · exact absurd h nofun
  · next hne hspan =>
    obtain ⟨rfl, rfl⟩ := Prod.mk.inj (Except.ok.inj h)
    exact .marked hmark hsign (spanDigits_eq_iff.mp hspan).1 hne

theorem spelled_of_readExponent (h : readExponent s = .ok (e, rest)) :
    ExponentSpelled e s rest := by
  unfold readExponent at h
  split at h
  · exact spelled_of_readExponentDigits (by decide) h
  · exact spelled_of_readExponentDigits (by decide) h
  · obtain ⟨rfl, rfl⟩ := Prod.mk.inj (Except.ok.inj h)
    exact .absent s

/-- What may stand behind a number: nothing that would go on with it. -/
def EndsNumber (s : List Symbol) : Prop :=
  ∀ x ∈ s.head?, digit? x = none ∧ x ≠ .char '.' ∧ x ≠ .char 'e' ∧ x ≠ .char 'E'

theorem EndsNumber.noDigit (h : EndsNumber s) : NoDigit s :=
  fun x hx => (h x hx).1

theorem ExponentSpelled.readExponent_eq (h : ExponentSpelled e s rest) (hend : EndsNumber rest) :
    readExponent s = .ok (e, rest) := by
  cases h with
  | absent =>
    unfold readExponent
    split
    · exact absurd rfl (hend _ rfl).2.2.1
    · exact absurd rfl (hend _ rfl).2.2.2
    · rfl
  | @marked mark e s digits rest hmark sign spelled nonempty =>
    have hread : readExponentDigits s = .ok (some e, rest) := by
      obtain ⟨isNegative, ds⟩ := e
      obtain ⟨d, ds, rfl⟩ := List.exists_cons_of_ne_nil nonempty
      have hhead : digits.head? = some (.char (Char.ofNat (48 + d))) := by rw [spelled]; rfl
      unfold readExponentDigits
      rw [sign.readSign_eq hhead]
      simp only [spanDigits_eq_iff.mpr ⟨spelled, hend.noDigit⟩]
    simp only [List.mem_cons, List.not_mem_nil, or_false] at hmark
    rcases hmark with rfl | rfl
    · exact hread
    · exact hread

/-- Behind a fraction there is no further digit and no point, behind the whole no digit. -/
theorem ExponentSpelled.head_ne (h : ExponentSpelled e s rest) (hend : EndsNumber rest) :
    NoDigit s ∧ s.head? ≠ some (.char '.') := by
  cases h with
  | absent => exact ⟨hend.noDigit, fun hpoint => (hend _ hpoint).2.1 rfl⟩
  | marked hmark =>
    simp only [List.mem_cons, List.not_mem_nil, or_false] at hmark
    rcases hmark with rfl | rfl
    all_goals exact ⟨fun x hx => by obtain rfl := Option.some.inj hx; rfl, nofun⟩

theorem FractionSpelled.noDigit (h : FractionSpelled ds s rest) (hdigit : NoDigit rest) :
    NoDigit s := by
  cases h with
  | absent => exact hdigit
  | point => exact fun x hx => by obtain rfl := Option.some.inj hx; rfl

/-- **A number that is read was spelled.** -/
theorem spelled_of_readNumber {isNegative : Bool} (h : readNumber isNegative s = .ok (l, rest)) :
    l.isNegative = isNegative ∧ l.SpelledUnsigned s rest := by
  unfold readNumber at h
  obtain ⟨⟨whole, s'⟩, hwhole, h⟩ := bind_eq_ok_iff.mp h
  obtain ⟨⟨fraction, s''⟩, hfraction, h⟩ := bind_eq_ok_iff.mp h
  obtain ⟨⟨exponent, rest'⟩, hexponent, h⟩ := bind_eq_ok_iff.mp h
  obtain ⟨rfl, rfl⟩ := Prod.mk.inj (Except.ok.inj h)
  exact ⟨rfl, s', s'', (readWhole_eq_ok_iff.mp hwhole).1, spelled_of_readFraction hfraction,
    spelled_of_readExponent hexponent⟩

/-- **A number that is spelled is read**, where it ends. -/
theorem Literal.SpelledUnsigned.readNumber_eq (h : l.SpelledUnsigned s rest)
    (hend : EndsNumber rest) : readNumber l.isNegative s = .ok (l, rest) := by
  obtain ⟨fraction, exponent, hwhole, hfraction, hexponent⟩ := h
  obtain ⟨hdigit, hpoint⟩ := hexponent.head_ne hend
  have hread := readWhole_eq_ok_iff.mpr ⟨hwhole, hfraction.noDigit hdigit⟩
  unfold readNumber
  simp only [hread, hfraction.readFraction_eq hdigit hpoint, hexponent.readExponent_eq hend, bind,
    Except.bind]
  rfl

end Numbers

/-! ## 4. Texts -/

/-- Hexadecimal digits are ASCII. -/
theorem toNat_lt_of_hexDigit? {c : Char} {n : Nat} (h : hexDigit? (.char c) = some n) :
    c.toNat < 128 := by
  simp only [hexDigit?] at h
  split at h
  case isTrue hdigit => exact toNat_lt_of_isDigit hdigit
  case isFalse =>
    split at h
    case isTrue hlower =>
      have hle : c ≤ 'f' := by simpa using (Bool.and_eq_true_iff.mp hlower).2
      exact Nat.lt_of_le_of_lt (UInt32.le_iff_toNat_le.mp hle) (by decide)
    case isFalse =>
      split at h
      case isTrue hupper =>
        have hle : c ≤ 'F' := by simpa using (Bool.and_eq_true_iff.mp hupper).2
        exact Nat.lt_of_le_of_lt (UInt32.le_iff_toNat_le.mp hle) (by decide)
      case isFalse => exact absurd h nofun

/-- **A hexadecimal digit is read where it is spelled.** -/
theorem hexDigit?_eq_some_iff {x : Symbol} {n : Nat} :
    hexDigit? x = some n ↔ ∃ d : Fin 16, n = d ∧ HexSpelled d x := by
  unfold HexSpelled
  constructor
  · intro h
    cases x with
    | stray b => exact absurd h nofun
    | char c =>
      have hfirst : ∀ k < 128, ∀ m ∈ hexDigit? (.char (Char.ofNat k)), ∃ d : Fin 16, m = d ∧
          (Symbol.char (Char.ofNat k) = .char (hexDigit d) ∨
            Symbol.char (Char.ofNat k) = .char (hexDigit d).toUpper) := by
        decide
      have hspelled := Text.forall_lt_toNat (P := fun c => ∀ m ∈ hexDigit? (.char c), ∃ d : Fin 16,
        m = d ∧ (Symbol.char c = .char (hexDigit d) ∨ Symbol.char c = .char (hexDigit d).toUpper))
        hfirst (toNat_lt_of_hexDigit? h)
      exact hspelled n h
  · have hread : ∀ d : Fin 16, hexDigit? (.char (hexDigit d)) = some d.val ∧
        hexDigit? (.char (hexDigit d).toUpper) = some d.val := by
      decide
    rintro ⟨d, rfl, rfl | rfl⟩
    · exact (hread d).1
    · exact (hread d).2

/-- Four of them are read as a unit. -/
theorem hexUnit?_eq_some_iff {u v w x : Symbol} {n : UInt16} :
    hexUnit? u v w x = some n ↔ ∃ a b c d, HexSpelled a u ∧ HexSpelled b v ∧ HexSpelled c w ∧
      HexSpelled d x ∧ n = hexUnit a b c d := by
  unfold hexUnit?
  simp only [Option.bind_eq_bind, Option.bind_eq_some_iff, hexDigit?_eq_some_iff]
  constructor
  · rintro ⟨_, ⟨a, rfl, ha⟩, _, ⟨b, rfl, hb⟩, _, ⟨c, rfl, hc⟩, _, ⟨d, rfl, hd⟩, hn⟩
    exact ⟨a, b, c, d, ha, hb, hc, hd, (Option.some.inj hn).symm⟩
  · rintro ⟨a, b, c, d, ha, hb, hc, hd, rfl⟩
    exact ⟨a, ⟨a, rfl, ha⟩, b, ⟨b, rfl, hb⟩, c, ⟨c, rfl, hc⟩, d, ⟨d, rfl, hd⟩, rfl⟩

/-- A letter is read as the short form that is spelled with it. -/
theorem Short.ofLetter?_eq_some_iff {letter : Char} {e : Short} :
    Short.ofLetter? letter = some e ↔ letter = e.letter := by
  constructor
  · intro h
    unfold Short.ofLetter? at h
    split at h
    all_goals cases h
    all_goals rfl
  · rintro rfl
    cases e <;> rfl

section Texts

variable {us : List TextUnit} {s rest : List Symbol}

/-- **A text that is read was spelled.** -/
theorem spelled_of_readText (h : readText s = (us, .ok rest)) : TextSpelled us s rest := by
  fun_induction readText s generalizing us with
  | case2 b s units rest' hread ih =>
    obtain ⟨rfl, rfl⟩ := Prod.mk.inj h
    exact .stray (ih hread)
  | case3 s =>
    obtain ⟨rfl, rfl⟩ := read_ok_inj h
    exact .close s
  | case6 a b c d s n hunit units rest' hread _ ih =>
    obtain ⟨rfl, rfl⟩ := Prod.mk.inj h
    obtain ⟨a, b, c, d, ha, hb, hc, hd, rfl⟩ := hexUnit?_eq_some_iff.mp hunit
    exact .hex rfl ha hb hc hd (ih hread)
  | case10 letter s _ _ e hletter units rest' hread _ ih =>
    obtain ⟨rfl, rfl⟩ := Prod.mk.inj h
    obtain rfl := Short.ofLetter?_eq_some_iff.mp hletter
    exact .short (ih hread)
  | case12 c s hquote hbackslash hcontrol units rest' hread ih =>
    obtain ⟨rfl, rfl⟩ := Prod.mk.inj h
    exact .plain ⟨hquote, hbackslash, Nat.le_of_not_lt hcontrol⟩ (ih hread)
  | _ => exact absurd (Prod.mk.inj h).2 nofun

/-- **A text that is spelled is read.** -/
theorem TextSpelled.readText_eq (h : TextSpelled us s rest) : readText s = (us, .ok rest) := by
  induction h with
  | close rest =>
    rw [readText.eq_def]
    rfl
  | plain legible more ih =>
    obtain ⟨hquote, hbackslash, hcontrol⟩ := legible
    rw [readText.eq_def]
    simp only [if_neg hquote, if_neg hbackslash, if_neg (Nat.not_lt.mpr hcontrol), ih]
  | stray more ih =>
    rw [readText.eq_def]
    simp only [ih]
  | @short e us s rest more ih =>
    have hread : readText (.char '\\' :: .char e.letter :: s) =
        (.short e :: (readText s).1, (readText s).2) := by
      cases e <;> rfl
    rw [hread, ih]
  | hex value first second third fourth more ih =>
    have hunit := hexUnit?_eq_some_iff.mpr ⟨_, _, _, _, first, second, third, fourth, value.symm⟩
    rw [readText.eq_def]
    simp only [hunit, ih]
    rfl

end Texts

end Carryover.Json
