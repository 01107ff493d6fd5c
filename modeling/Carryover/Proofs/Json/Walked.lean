/-
# Walks over written trees

What the readers of wanted and held values make of the trees that are built for writing: of a text
(`Tree.asText_ofString`, `Tree.hold_ofString`), of a list (`readList_ofValues`), and of an object.
An object is read member by member; `Shape.readMembers_cons` is one member, whose key the record
knows and whose entry reads the value.
-/
import Carryover.Proofs.Json.Meaning

namespace Carryover.Json

/-! ## 1. Texts and lists -/

/-- Behind a success one goes on with its value. -/
theorem ok_bind {ε α β : Type} (a : α) (f : α → Except ε β) : (Except.ok a >>= f) = f a :=
  rfl

/-- With room for one more list or object it is entered. -/
theorem enter_eq_ok {room : Nat} (h : 1 < room) : enter room = .ok (room - 1) :=
  enter_eq_ok_iff.mpr ⟨h, rfl⟩

/-- A written text is the text. -/
theorem Tree.isText_ofString (s : String) : (Tree.ofString s).IsText s :=
  ⟨encode s, rfl, decode_eq_ok_iff.mp (decode_encode s)⟩

/-- It is taken in as the text, wanted or held. -/
theorem Tree.asText_ofString (s : String) : (Tree.ofString s).asText = .ok s :=
  Tree.asText_eq_ok_iff.mpr (isText_ofString s)

theorem Tree.hold_ofString (s : String) (room : Nat) :
    (Tree.ofString s).hold room = .ok (.text s) :=
  Tree.hold_eq_text_iff.mpr (isText_ofString s)

/-- A list whose elements are read is read. -/
theorem readList_ofValues {α : Type} {read : Reader α} {toTree : α → Tree} {values : List α}
    {room : Nat} (hroom : 1 < room) (h : ∀ v ∈ values, read (room - 1) (toTree v) = .ok v) :
    readList read room (.ofValues toTree values) = .ok values := by
  refine (readList_eq_ok_iff hroom fun _ _ => Iff.rfl).mpr ⟨values.map toTree, rfl, ?_⟩
  rw [List.forall₂_map_left_iff, List.forall₂_same]
  exact h

/-! ## 2. Objects -/

/-- The members of an object of pairs. -/
def Members.ofPairs (ms : List (String × Tree)) : Members :=
  .ofList (ms.map fun m => (encode m.1, m.2))

namespace Shape

variable {δ : Type} {s : Shape δ} {room : Nat} {draft after : δ}

/-- A record that is written as an object is read member by member. -/
theorem read_ofPairs (hroom : 1 < room) (ms : List (String × Tree)) :
    s.read draft room (.ofPairs ms) = s.readMembers (room - 1) (.ofPairs ms) draft := by
  unfold read Tree.ofPairs
  simp only [enter_eq_ok hroom]
  rfl

/-- Behind the last member the draft is complete. -/
theorem readMembers_nil : s.readMembers room (.ofPairs []) draft = .ok draft :=
  rfl

/-- A member under a known key that is new is read by its entry. -/
theorem readMembers_cons {key : String} {t : Tree} {ms : List (String × Tree)} {e : Entry δ}
    (hfind : s.entries.find? (·.key == key) = some e) (hnew : e.isSet draft = false)
    (hset : e.set room t draft = .ok after) :
    s.readMembers room (.ofPairs ((key, t) :: ms)) draft
      = s.readMembers room (.ofPairs ms) after := by
  unfold Members.ofPairs
  simp only [List.map_cons, Members.ofList, readMembers, decode_encode, ok_bind, hfind, hnew,
    hset]
  rfl

end Shape

end Carryover.Json
