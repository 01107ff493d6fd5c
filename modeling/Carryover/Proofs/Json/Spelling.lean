/-
# Texts and the units that spell them

`StandFor` says which characters units stand for, without a reader; `decode_eq_ok_iff` says that
decoding finds exactly these.  A hexadecimal unit that is a surrogate only counts in a pair.

The units that a text is spelled with stand for its characters again, whatever they are
(`decode_encode`), and none of them is a character that cannot stand for itself between quotes
(`legible_encode`).
-/
import Carryover.Json.Printer
import Carryover.Json.Reader
import Carryover.Json.Text

namespace Carryover.Json

/-! ## 1. Steps that may fail -/

/-- What two steps give is what the second gives from what the first one gave. -/
theorem bind_eq_ok_iff {ε α β : Type} {x : Except ε α} {f : α → Except ε β} {b : β} :
    (x >>= f) = .ok b ↔ ∃ a, x = .ok a ∧ f a = .ok b := by
  cases x with
  | error e => exact ⟨nofun, fun ⟨_, h, _⟩ => absurd h nofun⟩
  | ok a => exact ⟨fun h => ⟨a, rfl, h⟩, fun ⟨_, h, hf⟩ => Except.ok.inj h ▸ hf⟩

theorem pure_eq_ok_iff {ε α : Type} {a b : α} : (pure a : Except ε α) = .ok b ↔ a = b :=
  ⟨Except.ok.inj, congrArg Except.ok⟩

/-- What a step gives may be dropped. -/
theorem discard_eq_ok_iff {ε α : Type} {x : Except ε α} {u : PUnit} :
    discard x = .ok u ↔ ∃ a, x = .ok a := by
  cases x with
  | error e => exact ⟨nofun, fun ⟨_, h⟩ => absurd h nofun⟩
  | ok a => exact ⟨fun _ => ⟨a, rfl⟩, fun _ => rfl⟩

/-! ## 2. What units stand for -/

/-- The characters that units stand for.  A hexadecimal unit stands for a character alone, if it is
no surrogate, or it leads a pair. -/
inductive StandFor : List TextUnit → List Char → Prop
  | nil : StandFor [] []
  | plain {c : Char} {us : List TextUnit} {cs : List Char} (more : StandFor us cs) :
      StandFor (.plain c :: us) (c :: cs)
  | short {e : Short} {us : List TextUnit} {cs : List Char} (more : StandFor us cs) :
      StandFor (.short e :: us) (e.char :: cs)
  | unit {n : UInt16} {c : Char} {us : List TextUnit} {cs : List Char}
      (value : c.toNat = n.toNat) (more : StandFor us cs) : StandFor (.hex n :: us) (c :: cs)
  | pair {n m : UInt16} {c : Char} {us : List TextUnit} {cs : List Char}
      (leading : isLeading n = true) (trailing : isTrailing m = true)
      (value : c.toNat = 0x10000 + (n.toNat - 0xD800) * 0x400 + (m.toNat - 0xDC00))
      (more : StandFor us cs) : StandFor (.hex n :: .hex m :: us) (c :: cs)

/-- No character has the value of a surrogate. -/
theorem not_surrogate (c : Char) : c.toNat < 0xD800 ∨ 0xE000 ≤ c.toNat := by
  have hvalid := c.valid
  simp only [UInt32.isValidChar, Nat.isValidChar] at hvalid
  show c.val.toNat < 0xD800 ∨ 0xE000 ≤ c.val.toNat
  omega

theorem toNat_ofNat {n : Nat} (h : n.isValidChar) : (Char.ofNat n).toNat = n := by
  rw [Char.ofNat, dif_pos h]
  rfl

/-- A unit that is no surrogate stands for the character of its value. -/
theorem eq_ofNat_iff {n : UInt16} {c : Char} (hleading : ¬ isLeading n = true)
    (htrailing : ¬ isTrailing n = true) : c.toNat = n.toNat ↔ Char.ofNat n.toNat = c := by
  have hlt : n.toNat < 65536 := n.toNat_lt
  have hvalue : (Char.ofNat n.toNat).toNat = n.toNat := by
    refine toNat_ofNat ?_
    simp only [isLeading, isTrailing, Bool.and_eq_true, decide_eq_true_eq, Nat.isValidChar] at *
    omega
  rw [← hvalue, Char.toNat_inj, hvalue, eq_comm]

/-- A pair stands for the character of its value. -/
theorem eq_pairChar_iff {n m : UInt16} {c : Char} (hleading : isLeading n = true)
    (htrailing : isTrailing m = true) :
    c.toNat = 0x10000 + (n.toNat - 0xD800) * 0x400 + (m.toNat - 0xDC00) ↔ pairChar n m = c := by
  have hvalue : (pairChar n m).toNat =
      0x10000 + (n.toNat - 0xD800) * 0x400 + (m.toNat - 0xDC00) := by
    refine toNat_ofNat ?_
    simp only [isLeading, isTrailing, Bool.and_eq_true, decide_eq_true_eq, Nat.isValidChar] at *
    omega
  rw [← hvalue, Char.toNat_inj, eq_comm]

/-- No unit both leads and ends a pair. -/
theorem not_trailing_of_leading {n : UInt16} (h : isLeading n = true) : ¬ isTrailing n = true := by
  simp only [isLeading, isTrailing, Bool.and_eq_true, decide_eq_true_eq] at *
  omega

/-- A surrogate alone stands for nothing. -/
theorem value_ne_of_surrogate {n : UInt16} (c : Char)
    (h : isLeading n = true ∨ isTrailing n = true) : c.toNat ≠ n.toNat := by
  have hc := not_surrogate c
  simp only [isLeading, isTrailing, Bool.and_eq_true, decide_eq_true_eq] at h
  omega

/-- **Units are decoded to the characters that they stand for**, and stray bytes never. -/
theorem decodeUnits_eq_ok_iff {hasStray : Bool} {us : List TextUnit} {cs : List Char} :
    decodeUnits none hasStray us = .ok cs ↔ hasStray = false ∧ StandFor us cs := by
  fun_induction decodeUnits none hasStray us generalizing cs with
  | case1 _ _ h => exact absurd h nofun
  | case2 => exact ⟨nofun, fun h => absurd h.1 nofun⟩
  | case3 hasStray _ hno =>
    constructor
    · intro h
      obtain rfl := Except.ok.inj h
      exact ⟨by simpa using hno, .nil⟩
    · rintro ⟨-, ⟨⟩⟩
      rfl
  | case4 hasStray c us ih =>
    simp only [bind_eq_ok_iff, pure_eq_ok_iff, ih]
    constructor
    · rintro ⟨cs, ⟨hno, hcs⟩, rfl⟩
      exact ⟨hno, .plain hcs⟩
    · rintro ⟨hno, h⟩
      cases h with
      | plain more => exact ⟨_, ⟨hno, more⟩, rfl⟩
  | case5 hasStray b us ih =>
    rw [ih]
    exact ⟨fun h => absurd h.1 nofun, fun h => absurd h.2 nofun⟩
  | case6 hasStray e us ih =>
    simp only [bind_eq_ok_iff, pure_eq_ok_iff, ih]
    constructor
    · rintro ⟨cs, ⟨hno, hcs⟩, rfl⟩
      exact ⟨hno, .short hcs⟩
    · rintro ⟨hno, h⟩
      cases h with
      | short more => exact ⟨_, ⟨hno, more⟩, rfl⟩
  | case9 hasStray n htrailing hleading m us hm ih =>
    simp only [bind_eq_ok_iff, pure_eq_ok_iff, ih]
    constructor
    · rintro ⟨cs, ⟨hno, hcs⟩, rfl⟩
      exact ⟨hno, .pair hleading hm ((eq_pairChar_iff hleading hm).mpr rfl) hcs⟩
    · rintro ⟨hno, h⟩
      cases h with
      | unit value => exact absurd value (value_ne_of_surrogate _ (.inl hleading))
      | pair _ _ value more =>
        obtain rfl := (eq_pairChar_iff hleading hm).mp value
        exact ⟨_, ⟨hno, more⟩, rfl⟩
  | case12 hasStray n us htrailing hleading ih =>
    simp only [bind_eq_ok_iff, pure_eq_ok_iff, ih]
    constructor
    · rintro ⟨cs, ⟨hno, hcs⟩, rfl⟩
      exact ⟨hno, .unit ((eq_ofNat_iff hleading htrailing).mpr rfl) hcs⟩
    · rintro ⟨hno, h⟩
      cases h with
      | unit value more =>
        obtain rfl := (eq_ofNat_iff hleading htrailing).mp value
        exact ⟨_, ⟨hno, more⟩, rfl⟩
      | pair leading => exact absurd leading hleading
  | case7 hasStray n us htrailing =>
    refine ⟨nofun, fun ⟨_, h⟩ => ?_⟩
    cases h with
    | unit value => exact absurd value (value_ne_of_surrogate _ (.inr htrailing))
    | pair leading => exact absurd htrailing (not_trailing_of_leading leading)
  | case8 hasStray n htrailing hleading =>
    refine ⟨nofun, fun ⟨_, h⟩ => ?_⟩
    cases h with
    | unit value => exact absurd value (value_ne_of_surrogate _ (.inl hleading))
  | case10 hasStray n htrailing hleading m us hm =>
    refine ⟨nofun, fun ⟨_, h⟩ => ?_⟩
    cases h with
    | unit value => exact absurd value (value_ne_of_surrogate _ (.inl hleading))
    | pair _ trailing => exact absurd trailing hm
  | case11 hasStray n htrailing hleading u us hu =>
    refine ⟨nofun, fun ⟨_, h⟩ => ?_⟩
    cases h with
    | unit value => exact absurd value (value_ne_of_surrogate _ (.inl hleading))
    | pair => exact absurd rfl (hu _)

/-- **Decoding.** -/
theorem decode_eq_ok_iff {us : List TextUnit} {s : String} :
    decode us = .ok s ↔ StandFor us s.toList := by
  unfold decode
  simp only [bind_eq_ok_iff, pure_eq_ok_iff, decodeUnits_eq_ok_iff, true_and]
  constructor
  · rintro ⟨cs, hcs, rfl⟩
    rwa [String.toList_ofList]
  · exact fun h => ⟨s.toList, h, String.ofList_toList⟩

/-! ## 3. The unit that spells a character -/

/-- Can the unit be written so that it is read again?  A stray byte is written as nothing, and
between quotes no quote, no backslash and no control character stands for itself. -/
def TextUnit.Legible : TextUnit → Prop
  | plain c => c ≠ '"' ∧ c ≠ '\\' ∧ 0x20 ≤ c.toNat
  | stray _ => False
  | short _ => True
  | hex _ => True

/-- **The three ways to spell a character**: by a letter behind a backslash, by the digits of a
control character, or by itself. -/
theorem encodeChar_cases (c : Char) :
    (∃ s : Short, encodeChar c = .short s ∧ s.char = c) ∨
      (c.toNat < 0x20 ∧ encodeChar c = .hex (UInt16.ofNat c.toNat)) ∨
      (encodeChar c = .plain c ∧ (TextUnit.plain c).Legible) := by
  unfold encodeChar
  split
  case isTrue h => exact .inl ⟨.quote, rfl, h.symm⟩
  case isFalse hquote =>
  split
  case isTrue h => exact .inl ⟨.backslash, rfl, h.symm⟩
  case isFalse hbackslash =>
  split
  case isTrue h => exact .inl ⟨.backspace, rfl, h.symm⟩
  split
  case isTrue h => exact .inl ⟨.formFeed, rfl, h.symm⟩
  split
  case isTrue h => exact .inl ⟨.lineFeed, rfl, h.symm⟩
  split
  case isTrue h => exact .inl ⟨.carriageReturn, rfl, h.symm⟩
  split
  case isTrue h => exact .inl ⟨.tab, rfl, h.symm⟩
  split
  case isTrue h => exact .inr (.inl ⟨h, rfl⟩)
  case isFalse h => exact .inr (.inr ⟨rfl, hquote, hbackslash, Nat.le_of_not_lt h⟩)

/-- It stands for the character. -/
theorem StandFor.encodeChar {c : Char} {us : List TextUnit} {cs : List Char}
    (more : StandFor us cs) : StandFor (encodeChar c :: us) (c :: cs) := by
  rcases encodeChar_cases c with ⟨e, he, rfl⟩ | ⟨hc, he⟩ | ⟨he, -⟩
  · rw [he]
    exact .short more
  · have hvalue : (UInt16.ofNat c.toNat).toNat = c.toNat :=
      UInt16.toNat_ofNat_of_lt' (Nat.lt_trans hc (by decide))
    rw [he]
    exact .unit hvalue.symm more
  · rw [he]
    exact .plain more

/-- **Decoding undoes encoding.** -/
theorem decode_encode (s : String) : decode (encode s) = .ok s := by
  have hunits : ∀ cs : List Char, StandFor (cs.map encodeChar) cs := by
    intro cs
    induction cs with
    | nil => exact .nil
    | cons c cs ih => exact ih.encodeChar
  exact decode_eq_ok_iff.mpr (hunits s.toList)

/-! ## 4. The symbols of a spelled text -/

/-- The symbols of characters. -/
def symbols (cs : List Char) : List Symbol :=
  cs.map .char

/-- The units of a spelled text can be written. -/
theorem legible_encode (s : String) : ∀ u ∈ encode s, u.Legible := by
  intro u hu
  obtain ⟨c, -, rfl⟩ := List.mem_map.mp hu
  rcases encodeChar_cases c with ⟨e, he, -⟩ | ⟨-, he⟩ | ⟨he, hlegible⟩
  · rw [he]
    trivial
  · rw [he]
    trivial
  · rw [he]
    exact hlegible

end Carryover.Json
