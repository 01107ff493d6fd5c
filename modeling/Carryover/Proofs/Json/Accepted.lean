/-
# What the reader accepts

`Document.read_eq_clean_iff`: the reader finds a tree in a document, and nothing wrong, exactly if
the symbols spell the tree by the grammar.

One direction is by the recursion of the reader: what it took off the front was spelled
(`spelled_of_readValue`).  The other one is by the rules of the grammar
(`Tree.Spelled.readValue_eq`).  The fuel for a value is twice the count of the symbols in front of
which it is read; each list and each object takes away one symbol and two steps.
-/
import Carryover.Proofs.Json.Scanned

namespace Carryover.Json

/-! ## 1. Values that were read -/

section Values

variable {fuel : Nat} {t : Tree} {items : Items} {members : Members} {s rest : List Symbol}

/-- A word that is read was spelled. -/
theorem readWord_eq_ok_iff {letters : List Char} :
    readWord letters s = .ok rest ↔ s = symbols letters ++ rest := by
  induction letters generalizing s with
  | nil => exact ⟨Except.ok.inj, congrArg Except.ok⟩
  | cons c letters ih =>
    cases s with
    | nil => exact ⟨nofun, nofun⟩
    | cons x s =>
      unfold readWord
      by_cases hx : x = .char c
      · rw [if_pos hx, ih, hx]
        exact ⟨congrArg (List.cons _), fun h => (List.cons.inj h).2⟩
      · rw [if_neg hx]
        exact ⟨nofun, fun h => absurd (List.cons.inj h).1 hx⟩

/-- A word alone. -/
theorem word_eq_ok_iff {t : Tree} {value : Tree} {r : Rest} :
    word value r = (t, .ok rest) ↔ t = value ∧ r = .ok rest := by
  cases r with
  | ok s => simp [word, eq_comm]
  | error f => simp [word, cut]

/-- A number. -/
theorem spelled_of_number {isNegative : Bool} (h : number isNegative s = (t, .ok rest)) :
    ∃ l : Literal, t = .number l ∧ l.isNegative = isNegative ∧ l.SpelledUnsigned s rest := by
  unfold number at h
  split at h
  · next l rest' hread =>
    obtain ⟨rfl, rfl⟩ := read_ok_inj h
    exact ⟨l, rfl, spelled_of_readNumber hread⟩
  · exact absurd (Prod.mk.inj h).2 nofun

/-- White space in front of a value belongs to it. -/
theorem Tree.Spelled.of_blank {s' : List Symbol} (h : Blank s s') (ht : t.Spelled s' rest) :
    t.Spelled s rest := by
  cases ht with
  | null word => exact .null (h.trans word)
  | true word => exact .true (h.trans word)
  | false word => exact .false (h.trans word)
  | number blank number => exact .number (h.trans blank) number
  | text opening text => exact .text (h.trans opening) text
  | noItems opening closing => exact .noItems (h.trans opening) closing
  | list opening inside => exact .list (h.trans opening) inside
  | noMembers opening closing => exact .noMembers (h.trans opening) closing
  | object opening inside => exact .object (h.trans opening) inside

theorem Items.Spelled.of_blank {s' : List Symbol} (h : Blank s s') (ht : items.Spelled s' rest) :
    items.Spelled s rest := by
  cases ht with
  | last value closing => exact .last (.of_blank h value) closing
  | more value comma more => exact .more (.of_blank h value) comma more

theorem Members.Spelled.of_blank {s' : List Symbol} (h : Blank s s')
    (ht : members.Spelled s' rest) : members.Spelled s rest := by
  cases ht with
  | last member closing =>
    obtain ⟨opening, text, colon, value⟩ := member
    exact .last ⟨h.trans opening, text, colon, value⟩ closing
  | more member comma more =>
    obtain ⟨opening, text, colon, value⟩ := member
    exact .more ⟨h.trans opening, text, colon, value⟩ comma more

mutual

/-- **A value that is read was spelled.** -/
theorem spelled_of_readValue {fuel : Nat} {t : Tree} {s rest : List Symbol}
    (h : readValue fuel s = (t, .ok rest)) : t.Spelled s rest := by
  cases fuel with
  | zero => exact absurd (Prod.mk.inj h).2 nofun
  | succ fuel =>
    have hblank := blank_skipSpace s
    unfold readValue at h
    split at h
    · exact absurd (Prod.mk.inj h).2 nofun
    · exact absurd (Prod.mk.inj h).2 nofun
    next c inner hskip =>
    rw [hskip] at hblank
    split at h
    case isTrue hc =>
      subst hc
      obtain ⟨rfl, hword⟩ := word_eq_ok_iff.mp h
      rw [readWord_eq_ok_iff.mp hword] at hblank
      exact .null hblank
    split at h
    case isTrue hc =>
      subst hc
      obtain ⟨rfl, hword⟩ := word_eq_ok_iff.mp h
      rw [readWord_eq_ok_iff.mp hword] at hblank
      exact .true hblank
    split at h
    case isTrue hc =>
      subst hc
      obtain ⟨rfl, hword⟩ := word_eq_ok_iff.mp h
      rw [readWord_eq_ok_iff.mp hword] at hblank
      exact .false hblank
    split at h
    case isTrue hc =>
      subst hc
      obtain ⟨l, rfl, hsign, hdigits⟩ := spelled_of_number h
      exact .number hblank (.minus hsign hdigits)
    split at h
    case isTrue =>
      obtain ⟨l, rfl, hsign, hdigits⟩ := spelled_of_number h
      exact .number hblank (.plain hsign hdigits)
    split at h
    case isTrue hc =>
      subst hc
      split at h
      · next us rest' hread =>
        obtain ⟨rfl, rfl⟩ := read_ok_inj h
        exact .text hblank (spelled_of_readText hread)
      · exact absurd (Prod.mk.inj h).2 nofun
    split at h
    case isTrue hc =>
      subst hc
      split at h
      · exact absurd (Prod.mk.inj h).2 nofun
      · next rest' hclose =>
        obtain ⟨rfl, rfl⟩ := read_ok_inj h
        exact .noItems hblank (blank_of_skipSpace hclose)
      · rcases hitems : readItems fuel (skipSpace inner) with ⟨items, result⟩
        rw [hitems] at h
        obtain ⟨rfl, rfl⟩ := Prod.mk.inj h
        exact .list hblank (.of_blank (blank_skipSpace inner) (spelled_of_readItems hitems))
    split at h
    case isTrue hc =>
      subst hc
      split at h
      · exact absurd (Prod.mk.inj h).2 nofun
      · next rest' hclose =>
        obtain ⟨rfl, rfl⟩ := read_ok_inj h
        exact .noMembers hblank (blank_of_skipSpace hclose)
      · rcases hmembers : readMembers fuel (skipSpace inner) with ⟨members, result⟩
        rw [hmembers] at h
        obtain ⟨rfl, rfl⟩ := Prod.mk.inj h
        exact .object hblank (.of_blank (blank_skipSpace inner) (spelled_of_readMembers hmembers))
    case isFalse => exact absurd (Prod.mk.inj h).2 nofun

/-- Elements that are read were spelled. -/
theorem spelled_of_readItems {fuel : Nat} {items : Items} {s rest : List Symbol}
    (h : readItems fuel s = (items, .ok rest)) : items.Spelled s rest := by
  cases fuel with
  | zero => exact absurd (Prod.mk.inj h).2 nofun
  | succ fuel =>
    unfold readItems at h
    split at h
    · exact absurd (Prod.mk.inj h).2 nofun
    next t behind hvalue =>
    have ht := spelled_of_readValue hvalue
    split at h
    · exact absurd (Prod.mk.inj h).2 nofun
    · next rest' hclose =>
      obtain ⟨rfl, rfl⟩ := read_ok_inj h
      exact .last ht (blank_of_skipSpace hclose)
    · next next hcomma =>
      split at h
      · exact absurd (Prod.mk.inj h).2 nofun
      · rcases hitems : readItems fuel (skipSpace next) with ⟨items, result⟩
        rw [hitems] at h
        obtain ⟨rfl, rfl⟩ := Prod.mk.inj h
        exact .more ht (blank_of_skipSpace hcomma)
          (.of_blank (blank_skipSpace next) (spelled_of_readItems hitems))
    · exact absurd (Prod.mk.inj h).2 nofun

/-- Members that are read were spelled. -/
theorem spelled_of_readMembers {fuel : Nat} {members : Members} {s rest : List Symbol}
    (h : readMembers fuel s = (members, .ok rest)) : members.Spelled s rest := by
  cases fuel with
  | zero => exact absurd (Prod.mk.inj h).2 nofun
  | succ fuel =>
    unfold readMembers at h
    split at h
    case h_1 => exact absurd (Prod.mk.inj h).2 nofun
    case h_2 fuel' units hfuel =>
      obtain rfl := Nat.succ.inj hfuel
      split at h
      · exact absurd (Prod.mk.inj h).2 nofun
      next us behind hkey =>
      split at h
      · exact absurd (Prod.mk.inj h).2 nofun
      · next value hcolon =>
        split at h
        · exact absurd (Prod.mk.inj h).2 nofun
        next t after hvalue =>
        have hmember : Member.Spelled us t (.char '"' :: units) after :=
          ⟨blank_refl _, spelled_of_readText hkey, blank_of_skipSpace hcolon,
            spelled_of_readValue hvalue⟩
        split at h
        · exact absurd (Prod.mk.inj h).2 nofun
        · next rest' hclose =>
          obtain ⟨rfl, rfl⟩ := read_ok_inj h
          exact .last hmember (blank_of_skipSpace hclose)
        · next next hcomma =>
          split at h
          · exact absurd (Prod.mk.inj h).2 nofun
          · exact absurd (Prod.mk.inj h).2 nofun
          · rcases hmembers : readMembers fuel (skipSpace next) with ⟨members, result⟩
            rw [hmembers] at h
            obtain ⟨rfl, rfl⟩ := Prod.mk.inj h
            exact .more hmember (blank_of_skipSpace hcomma)
              (.of_blank (blank_skipSpace next) (spelled_of_readMembers hmembers))
        · exact absurd (Prod.mk.inj h).2 nofun
      · exact absurd (Prod.mk.inj h).2 nofun
    case h_3 => exact absurd (Prod.mk.inj h).2 nofun

end

end Values

/-! ## 2. Values that are spelled are read -/

section Readers

variable {fuel : Nat} {t : Tree} {items : Items} {members : Members} {us : List TextUnit}
  {s inner behind next value rest : List Symbol} {c : Char}

/-- White space is neither a digit nor does it go on with a number. -/
theorem endsNumber_space {x : Symbol} (h : isSpace x = true) :
    digit? x = none ∧ x ≠ .char '.' ∧ x ≠ .char 'e' ∧ x ≠ .char 'E' := by
  simp only [isSpace, Bool.or_eq_true, beq_iff_eq] at h
  rcases h with ((rfl | rfl) | rfl) | rfl
  all_goals decide

/-- White space ends a number. -/
theorem EndsNumber.of_blank (h : EndsNumber rest) (hs : Blank s rest) : EndsNumber s := by
  obtain ⟨blanks, hblanks, rfl⟩ := hs
  cases blanks with
  | nil => exact h
  | cons b blanks =>
    intro x hx
    obtain rfl := Option.some.inj hx
    exact endsNumber_space (hblanks _ List.mem_cons_self)

/-- A comma and the closing symbols end a number. -/
theorem Blank.endsNumber (h : Blank s (.char c :: rest)) (hc : c ∈ [',', ']', '\x7d']) :
    EndsNumber s := by
  refine EndsNumber.of_blank ?_ h
  intro x hx
  obtain rfl := Option.some.inj hx
  simp only [List.mem_cons, List.not_mem_nil, or_false] at hc
  rcases hc with rfl | rfl | rfl
  all_goals decide

theorem endsNumber_nil : EndsNumber [] :=
  nofun

/-- White space in front of a value is skipped anyway. -/
theorem readValue_skipSpace (fuel : Nat) (s : List Symbol) :
    readValue fuel (skipSpace s) = readValue fuel s := by
  cases fuel with
  | zero => rfl
  | succ fuel =>
    unfold readValue
    rw [← (blank_skipSpace s).skipSpace_eq]

/-- A text. -/
theorem readValue_text (hs : skipSpace s = .char '"' :: inner)
    (h : readText inner = (us, .ok rest)) : readValue (fuel + 1) s = (.text us, .ok rest) := by
  rw [readValue, hs]
  simp [h]

/-- A number without a sign. -/
theorem readValue_digit {d : Fin 10} (hs : skipSpace s = .char (Char.ofNat (48 + d)) :: inner) :
    readValue (fuel + 1) s = number false (skipSpace s) := by
  have hchar : ∀ d : Fin 10, (Char.ofNat (48 + d)).isDigit = true ∧
      Char.ofNat (48 + d) ∉ ['n', 't', 'f', '-'] := by
    decide
  obtain ⟨hdigit, hne⟩ := hchar d
  simp only [List.mem_cons, List.not_mem_nil, or_false, not_or] at hne
  rw [readValue, hs]
  simp [hne, hdigit]

/-- A list without elements. -/
theorem readValue_noItems (hs : skipSpace s = .char '[' :: inner)
    (h : skipSpace inner = .char ']' :: rest) :
    readValue (fuel + 1) s = (.list .close, .ok rest) := by
  rw [readValue, hs]
  simp [h]

/-- A list with elements. -/
theorem readValue_list (hs : skipSpace s = .char '[' :: inner)
    (hopen : skipSpace inner = .char c :: next) (hc : c ≠ ']')
    (h : readItems fuel (skipSpace inner) = (items, .ok rest)) :
    readValue (fuel + 1) s = (.list items, .ok rest) := by
  rw [readValue, hs]
  rw [hopen] at h
  simp [hopen, hc, h]

/-- An object without members. -/
theorem readValue_noMembers (hs : skipSpace s = .char '\x7b' :: inner)
    (h : skipSpace inner = .char '\x7d' :: rest) :
    readValue (fuel + 1) s = (.object .close, .ok rest) := by
  rw [readValue, hs]
  simp [h]

/-- An object with members. -/
theorem readValue_object (hs : skipSpace s = .char '\x7b' :: inner)
    (hopen : skipSpace inner = .char '"' :: next)
    (h : readMembers fuel (skipSpace inner) = (members, .ok rest)) :
    readValue (fuel + 1) s = (.object members, .ok rest) := by
  rw [readValue, hs]
  rw [hopen] at h
  simp [hopen, h]

/-- The last element. -/
theorem readItems_last (h : readValue fuel s = (t, .ok behind))
    (hclose : skipSpace behind = .char ']' :: rest) :
    readItems (fuel + 1) s = (.more t .close, .ok rest) := by
  rw [readItems, h]
  simp [hclose]

/-- An element before others. -/
theorem readItems_more (h : readValue fuel s = (t, .ok behind))
    (hcomma : skipSpace behind = .char ',' :: next)
    (hopen : skipSpace next = .char c :: inner) (hc : c ≠ ']')
    (hnext : readItems fuel (skipSpace next) = (items, .ok rest)) :
    readItems (fuel + 1) s = (.more t items, .ok rest) := by
  rw [readItems, h]
  rw [hopen] at hnext
  simp [hcomma, hopen, hc, hnext]

/-- The last member. -/
theorem readMembers_last (hkey : readText s = (us, .ok inner))
    (hcolon : skipSpace inner = .char ':' :: value)
    (h : readValue fuel value = (t, .ok behind))
    (hclose : skipSpace behind = .char '\x7d' :: rest) :
    readMembers (fuel + 1) (.char '"' :: s) = (.more us t .close, .ok rest) := by
  rw [readMembers, hkey]
  simp [hcolon, h, hclose]

/-- A member before others. -/
theorem readMembers_more {units : List Symbol} (hkey : readText s = (us, .ok inner))
    (hcolon : skipSpace inner = .char ':' :: value)
    (h : readValue fuel value = (t, .ok behind))
    (hcomma : skipSpace behind = .char ',' :: next) (hopen : skipSpace next = .char '"' :: units)
    (hnext : readMembers fuel (skipSpace next) = (members, .ok rest)) :
    readMembers (fuel + 1) (.char '"' :: s) = (.more us t members, .ok rest) := by
  rw [readMembers, hkey]
  rw [hopen] at hnext
  simp [hcolon, h, hcomma, hopen, hnext]

end Readers

/-- A number without its sign begins with a digit. -/
theorem Literal.SpelledUnsigned.exists_digit {l : Literal} {s rest : List Symbol}
    (h : l.SpelledUnsigned s rest) :
    ∃ (d : Fin 10) (more : List Symbol), s = .char (Char.ofNat (48 + d)) :: more := by
  obtain ⟨fraction, -, ⟨hdigits, hne, -⟩, -, -⟩ := h
  obtain ⟨d, ds, hds⟩ := List.exists_cons_of_ne_nil hne
  rw [hds] at hdigits
  exact ⟨d, symbols (printDigits ds) ++ fraction, hdigits⟩

/-- No digit is white space or ends a list. -/
theorem digit_continues (d : Fin 10) :
    isSpace (.char (Char.ofNat (48 + d))) = false ∧ Char.ofNat (48 + d) ≠ ']' := by
  revert d
  decide

/-- A value does not begin like the end of a list. -/
theorem Tree.Spelled.exists_opening {t : Tree} {s rest : List Symbol} (h : t.Spelled s rest) :
    ∃ c inner, skipSpace s = .char c :: inner ∧ c ≠ ']' := by
  cases h with
  | null word => exact ⟨'n', _, word.skipSpace_cons rfl, by decide⟩
  | true word => exact ⟨'t', _, word.skipSpace_cons rfl, by decide⟩
  | false word => exact ⟨'f', _, word.skipSpace_cons rfl, by decide⟩
  | number blank number =>
    cases number with
    | plain _ digits =>
      obtain ⟨d, more, rfl⟩ := digits.exists_digit
      exact ⟨_, more, blank.skipSpace_cons (digit_continues d).1, (digit_continues d).2⟩
    | minus => exact ⟨'-', _, blank.skipSpace_cons rfl, by decide⟩
  | text opening => exact ⟨'"', _, opening.skipSpace_cons rfl, by decide⟩
  | noItems opening => exact ⟨'[', _, opening.skipSpace_cons rfl, by decide⟩
  | list opening => exact ⟨'[', _, opening.skipSpace_cons rfl, by decide⟩
  | noMembers opening => exact ⟨'\x7b', _, opening.skipSpace_cons rfl, by decide⟩
  | object opening => exact ⟨'\x7b', _, opening.skipSpace_cons rfl, by decide⟩

theorem Items.Spelled.exists_opening {items : Items} {s rest : List Symbol}
    (h : items.Spelled s rest) : ∃ c inner, skipSpace s = .char c :: inner ∧ c ≠ ']' := by
  cases h with
  | last value => exact value.exists_opening
  | more value => exact value.exists_opening

theorem Members.Spelled.exists_opening {members : Members} {s rest : List Symbol}
    (h : members.Spelled s rest) : ∃ inner, skipSpace s = .char '"' :: inner := by
  cases h with
  | last member =>
    obtain ⟨opening, -, -, -⟩ := member
    exact ⟨_, opening.skipSpace_cons rfl⟩
  | more member =>
    obtain ⟨opening, -, -, -⟩ := member
    exact ⟨_, opening.skipSpace_cons rfl⟩

/-- **A number that is spelled is read as a value.** -/
theorem Literal.Spelled.readValue_eq {l : Literal} {fuel : Nat} {s digits rest : List Symbol}
    (h : l.Spelled digits rest) (hs : Blank s digits) (hend : EndsNumber rest) :
    readValue (fuel + 1) s = (.number l, .ok rest) := by
  cases h with
  | plain sign unsigned =>
    have hread := unsigned.readNumber_eq hend
    obtain ⟨d, more, rfl⟩ := unsigned.exists_digit
    have hskip := hs.skipSpace_cons (digit_continues d).1
    rw [readValue_digit hskip, hskip, number, ← sign, hread]
  | minus sign unsigned =>
    have hread := unsigned.readNumber_eq hend
    rw [sign] at hread
    rw [readValue, hs.skipSpace_cons rfl]
    simp [number, hread]

mutual

/-- **A value that is spelled is read**, with enough fuel and up to where it ends. -/
theorem Tree.Spelled.readValue_eq {t : Tree} {fuel : Nat} {s rest : List Symbol}
    (hend : EndsNumber rest) (hfuel : 2 * s.length ≤ fuel + 1) :
    t.Spelled s rest → readValue (fuel + 1) s = (t, .ok rest)
  | .null word => by
    rw [readValue, word.skipSpace_cons rfl]
    rfl
  | .true word => by
    rw [readValue, word.skipSpace_cons rfl]
    rfl
  | .false word => by
    rw [readValue, word.skipSpace_cons rfl]
    rfl
  | .number blank number => number.readValue_eq blank hend
  | .text opening text => readValue_text (opening.skipSpace_cons rfl) text.readText_eq
  | .noItems opening closing =>
    readValue_noItems (opening.skipSpace_cons rfl) (closing.skipSpace_cons rfl)
  | .list opening inside => by
    have hlt := opening.length_lt
    obtain ⟨c, next, hopen, hc⟩ := inside.exists_opening
    exact readValue_list (opening.skipSpace_cons rfl) hopen hc (inside.readItems_eq (by omega))
  | .noMembers opening closing =>
    readValue_noMembers (opening.skipSpace_cons rfl) (closing.skipSpace_cons rfl)
  | .object opening inside => by
    have hlt := opening.length_lt
    obtain ⟨next, hopen⟩ := inside.exists_opening
    exact readValue_object (opening.skipSpace_cons rfl) hopen
      (inside.readMembers_eq (by omega))

/-- Elements that are spelled are read. -/
theorem Items.Spelled.readItems_eq {items : Items} {fuel : Nat} {s rest : List Symbol}
    (hfuel : 2 * s.length < fuel) :
    items.Spelled s rest → readItems fuel (skipSpace s) = (items, .ok rest)
  | .last value closing => by
    have hlt := value.length_lt
    obtain ⟨fuel, rfl⟩ : ∃ f, fuel = f + 2 := ⟨fuel - 2, by omega⟩
    refine readItems_last ?_ (closing.skipSpace_cons rfl)
    rw [readValue_skipSpace]
    exact value.readValue_eq (closing.endsNumber (by decide)) (by omega)
  | .more value comma more => by
    have hlt := value.length_lt
    have hnext := comma.length_lt
    obtain ⟨fuel, rfl⟩ : ∃ f, fuel = f + 2 := ⟨fuel - 2, by omega⟩
    obtain ⟨c, inner, hopen, hc⟩ := more.exists_opening
    refine readItems_more ?_ (comma.skipSpace_cons rfl) hopen hc (more.readItems_eq (by omega))
    rw [readValue_skipSpace]
    exact value.readValue_eq (comma.endsNumber (by decide)) (by omega)

/-- Members that are spelled are read. -/
theorem Members.Spelled.readMembers_eq {members : Members} {fuel : Nat} {s rest : List Symbol}
    (hfuel : 2 * s.length < fuel) :
    members.Spelled s rest → readMembers fuel (skipSpace s) = (members, .ok rest)
  | .last (.mk opening text colon value) closing => by
    have hopening := opening.length_lt
    have htext := text.length_lt
    have hcolon := colon.length_lt
    obtain ⟨fuel, rfl⟩ : ∃ f, fuel = f + 2 := ⟨fuel - 2, by omega⟩
    rw [opening.skipSpace_cons rfl]
    exact readMembers_last text.readText_eq (colon.skipSpace_cons rfl)
      (value.readValue_eq (closing.endsNumber (by decide)) (by omega)) (closing.skipSpace_cons rfl)
  | .more (.mk opening text colon value) comma more => by
    have hopening := opening.length_lt
    have htext := text.length_lt
    have hcolon := colon.length_lt
    have hvalue := value.length_lt
    have hcomma := comma.length_lt
    obtain ⟨fuel, rfl⟩ : ∃ f, fuel = f + 2 := ⟨fuel - 2, by omega⟩
    obtain ⟨units, hopen⟩ := more.exists_opening
    rw [opening.skipSpace_cons rfl]
    exact readMembers_more text.readText_eq (colon.skipSpace_cons rfl)
      (value.readValue_eq (comma.endsNumber (by decide)) (by omega)) (comma.skipSpace_cons rfl)
      hopen (more.readMembers_eq (by omega))

end

/-! ## 3. Documents -/

/-- The symbols of a text behind which there is only white space. -/
theorem blank_nil_iff {s : List Symbol} : Blank s [] ↔ skipSpace s = [] :=
  ⟨fun h => h.skipSpace_eq, blank_of_skipSpace⟩

/-- **The reader accepts the documents of the grammar**, each with its tree, and no other. -/
theorem Document.read_eq_clean_iff {s : List Symbol} {t : Tree} :
    Document.read s = ⟨t, .clean⟩ ↔ t.IsDocument s := by
  unfold Document.read Tree.IsDocument
  constructor
  · intro h
    split at h
    · exact absurd (congrArg Document.ending h) nofun
    · next root rest hread =>
      obtain ⟨rfl, hend⟩ := Document.mk.inj h
      refine ⟨rest, spelled_of_readValue hread, blank_nil_iff.mpr ?_⟩
      split at hend
      · next hempty => exact List.isEmpty_iff.mp hempty
      · exact absurd hend nofun
  · rintro ⟨rest, ht, hrest⟩
    have hread := ht.readValue_eq (endsNumber_nil.of_blank hrest)
      (Nat.le_succ_of_le (Nat.le_succ (2 * s.length)))
    rw [hread]
    simp [blank_nil_iff.mp hrest]

end Carryover.Json
