/-
# What saving a text keeps

Saving a text may make folders and changes one file.  Two relations say what stays:

* `Tree.Extends`: everything that stood somewhere still stands there;
* `Tree.KeepsFolders`: every folder is still one.

Following a path takes its steps from folder to folder, so a way that led somewhere leads there
still when folders are kept (`follow_of_keepsFolders`).  `exists_location_of_save` puts together
what saving does: the path leads to a location, which holds the text now, all other files hold what
they held, and all ways still lead where they led.

All this is so whatever the system adds.  It may refuse to read the file that was saved, but where
it is plain the text is read again (`read_of_save`).
-/
import Carryover.Files.Save
import Carryover.Proofs.Files.Path

namespace Carryover.Files

namespace Tree

variable {base : List String}

/-! ## 1. What stays -/

/-- Everything that stands in the first tree stands in the second. -/
def Extends (t u : Tree base) : Prop :=
  ∀ l e, t.get? l = some e → u.get? l = some e

/-- Every folder of the first tree is one of the second. -/
def KeepsFolders (t u : Tree base) : Prop :=
  ∀ l, t.get? l = some .folder → u.get? l = some .folder

section Kept

variable {t u v : Tree base} {l k : Location base} {p q : Path} {e : Entry} {steps : List Part}
  {bytes : List UInt8} {host : Host base}

theorem Extends.refl (t : Tree base) : t.Extends t :=
  fun _ _ h => h

theorem Extends.trans (h : t.Extends u) (h' : u.Extends v) : t.Extends v :=
  fun l e he => h' l e (h l e he)

theorem Extends.keepsFolders (h : t.Extends u) : t.KeepsFolders u :=
  fun l => h l .folder

theorem KeepsFolders.refl (t : Tree base) : t.KeepsFolders t :=
  fun _ h => h

theorem KeepsFolders.trans (h : t.KeepsFolders u) (h' : u.KeepsFolders v) : t.KeepsFolders v :=
  fun l hl => h' l (h l hl)

/-- A location with no folder on it is not around the working folder. -/
theorem isAbove_of_get? (h : t.get? l ≠ some .folder) : l.isAbove = false := by
  rw [← Bool.not_eq_true]
  intro habove
  unfold get? at h
  rw [if_pos habove] at h
  exact h rfl

/-- Where nothing stood something can be put. -/
theorem extends_insert (h : t.get? l = none) (e : Entry) : t.Extends (t.insert l e) := by
  intro k f hk
  have hne : k ≠ l := by
    rintro rfl
    rw [h] at hk
    exact absurd hk nofun
  rw [get?_insert_of_ne t hne]
  exact hk

/-- Where no folder stood anything can be put. -/
theorem keepsFolders_insert (h : t.get? l ≠ some .folder) (e : Entry) :
    t.KeepsFolders (t.insert l e) := by
  intro k hk
  have hne : k ≠ l := by
    rintro rfl
    exact h hk
  rw [get?_insert_of_ne t hne]
  exact hk

/-! ## 2. Ways -/

/-- **What a step needs**: a folder to start in, and a name that is not too long. -/
theorem follow_cons_eq_ok_iff {start : Location base} {part : Part} :
    t.follow start (part :: steps) host = .ok l ↔
      t.get? start = some .folder ∧ (∀ s, part = .name s → s.utf8ByteSize ≤ longestName) ∧
        t.follow (host.step start part) steps host = .ok l := by
  conv => lhs; unfold follow
  rcases hstart : t.get? start with _ | _ | bytes
  · simp
  · cases part with
    | here => simp
    | up => simp
    | name s =>
      by_cases hlong : longestName < s.utf8ByteSize
      · simp [hlong, Nat.not_le.mpr hlong]
      · simp [hlong, Nat.le_of_not_lt hlong]
  · simp

/-- **A way that leads somewhere leads there while folders are kept.** -/
theorem follow_of_keepsFolders (h : t.KeepsFolders u) {start : Location base}
    (hl : t.follow start steps host = .ok l) : u.follow start steps host = .ok l := by
  induction steps generalizing start with
  | nil => exact hl
  | cons part rest ih =>
    obtain ⟨hstart, hshort, hrest⟩ := follow_cons_eq_ok_iff.mp hl
    exact follow_cons_eq_ok_iff.mpr ⟨h start hstart, hshort, ih hrest⟩

/-- A way in two parts is followed part by part. -/
theorem follow_append {start : Location base} {more : List Part}
    (h : t.follow start (steps ++ more) host = .ok l) :
    ∃ mid, t.follow start steps host = .ok mid ∧ t.follow mid more host = .ok l := by
  induction steps generalizing start with
  | nil => exact ⟨start, rfl, h⟩
  | cons part rest ih =>
    obtain ⟨hstart, hshort, hrest⟩ := follow_cons_eq_ok_iff.mp h
    obtain ⟨mid, hmid, hmore⟩ := ih hrest
    exact ⟨mid, follow_cons_eq_ok_iff.mpr ⟨hstart, hshort, hmid⟩, hmore⟩

/-- Where a path leads it leads while folders are kept. -/
theorem locate_of_keepsFolders (h : t.KeepsFolders u) (hl : t.locate p steps host = .ok l) :
    u.locate p steps host = .ok l := by
  unfold locate resolve at hl ⊢
  cases hrefused : refusal? p with
  | some trouble =>
    rw [hrefused] at hl
    exact absurd hl nofun
  | none =>
    rw [hrefused] at hl
    by_cases hempty : p.text = ""
    · simp [hempty] at hl
    · simp only [hempty, if_false] at hl ⊢
      exact follow_of_keepsFolders h hl

/-! ## 3. Files -/

/-- What a path leads to stands at a location, and the system lets it be seen. -/
theorem find_eq_ok_iff_of_host {call : Call} : t.find p call host = .ok (l, e) ↔
    t.locate p p.steps host = .ok l ∧ t.get? l = some e ∧ host.trouble? call p = none := by
  unfold find
  cases t.locate p p.steps host with
  | error trouble => simp [bind, Except.bind]
  | ok k =>
    simp only [bind, Except.bind, Except.ok.injEq]
    rcases hk : t.get? k with _ | f
    · refine iff_of_false nofun ?_
      rintro ⟨rfl, hl, -⟩
      exact absurd (hk.symm.trans hl) nofun
    · cases htrouble : host.trouble? call p with
      | some trouble => exact iff_of_false nofun fun h => absurd h.2.2 nofun
      | none =>
        simp only [pure, Except.pure, Except.ok.injEq, Prod.mk.injEq]
        constructor
        · rintro ⟨rfl, rfl⟩
          exact ⟨rfl, hk, trivial⟩
        · rintro ⟨rfl, hl, -⟩
          exact ⟨rfl, Option.some.inj (hk.symm.trans hl)⟩

/-- A plain system lets everything be seen. -/
theorem find_eq_ok_iff :
    t.find p = .ok (l, e) ↔ t.locate p p.steps = .ok l ∧ t.get? l = some e := by
  rw [find_eq_ok_iff_of_host]
  exact ⟨fun h => ⟨h.1, h.2.1⟩, fun h => ⟨h.1, h.2, rfl⟩⟩

/-- **What a file holds** stands at the location that its path leads to. -/
theorem read_eq_ok_iff_of_host : t.read p host = .ok bytes ↔
    ∃ l, t.locate p p.steps host = .ok l ∧ t.get? l = some (.file bytes) ∧
      host.trouble? .read p = none := by
  simp only [← find_eq_ok_iff_of_host]
  unfold read
  rcases t.find p .read host with trouble | ⟨l, _ | held⟩
  all_goals simp [bind, Except.bind, pure, Except.pure, throw, throwThe, MonadExceptOf.throw]

theorem read_eq_ok_iff :
    t.read p = .ok bytes ↔ ∃ l, t.locate p p.steps = .ok l ∧ t.get? l = some (.file bytes) := by
  rw [read_eq_ok_iff_of_host]
  exact exists_congr fun l => ⟨fun h => ⟨h.1, h.2.1⟩, fun h => ⟨h.1, h.2, rfl⟩⟩

/-- What putting a file does: where the path leads, and no folder is, the file stands. -/
theorem eq_insert_of_put (h : t.put p bytes host = .ok (u, l)) :
    t.locate p p.steps host = .ok l ∧ t.get? l ≠ some .folder ∧ u = t.insert l (.file bytes) := by
  unfold put at h
  cases hloc : t.locate p p.steps host with
  | error trouble =>
    rw [hloc] at h
    exact absurd h nofun
  | ok k =>
    simp only [hloc, bind, Except.bind] at h
    split at h
    · exact absurd h nofun
    · exact absurd h nofun
    · next hfree =>
      obtain ⟨rfl, rfl⟩ := Prod.mk.inj (Except.ok.inj h)
      exact ⟨rfl, hfree, rfl⟩

/-- **What putting a file leaves**: the path leads to the file, every folder is kept, and everything
else is as before. -/
theorem kept_of_put (h : t.put p bytes host = .ok (u, l)) :
    u.locate p p.steps host = .ok l ∧ u.get? l = some (.file bytes) ∧ t.KeepsFolders u ∧
      ∀ k, k ≠ l → u.get? k = t.get? k := by
  obtain ⟨hloc, hfree, rfl⟩ := eq_insert_of_put h
  have hkept := keepsFolders_insert hfree (.file bytes)
  exact ⟨locate_of_keepsFolders hkept hloc, get?_insert_self t (isAbove_of_get? hfree) _, hkept,
    fun k hk => get?_insert_of_ne t hk _⟩

/-- **Where no folder is a file can be put**, if the system is plain. -/
theorem put_of_free (h : t.locate p p.steps = .ok l) (hl : t.get? l ≠ some .folder) :
    t.put p bytes = .ok (t.insert l (.file bytes), l) := by
  unfold put
  rw [h]
  rcases hentry : t.get? l with _ | _ | held
  · simp [bind, Except.bind, pure, Except.pure, hentry, Host.plain]
  · exact absurd hentry hl
  · simp [bind, Except.bind, pure, Except.pure, hentry, Host.plain]

/-! ## 4. Folders -/

/-- What making a folder does: where the path leads, and nothing is, the folder stands. -/
theorem eq_insert_of_makeFolder (h : t.makeFolder p host = .ok u) :
    ∃ l, t.locate p p.way host = .ok l ∧ t.get? l = none ∧ u = t.insert l .folder := by
  unfold makeFolder obstacle? at h
  cases hloc : t.locate p p.way host with
  | error trouble =>
    rw [hloc] at h
    exact absurd h nofun
  | ok k =>
    simp only [hloc, bind, Except.bind] at h
    split at h
    · exact absurd h nofun
    · next hfree =>
      obtain rfl := Except.ok.inj h
      cases hk : t.get? k with
      | some entry => simp [hk] at hfree
      | none => exact ⟨k, rfl, hk, rfl⟩

/-- **What making a folder leaves**: the path leads to the folder, where nothing stood, and everything
else is as before. -/
theorem kept_of_makeFolder (h : t.makeFolder p host = .ok u) :
    ∃ l, u.locate p p.way host = .ok l ∧ t.get? l = none ∧ u.get? l = some .folder ∧
      ∀ k, k ≠ l → u.get? k = t.get? k := by
  obtain ⟨l, hloc, hnone, rfl⟩ := eq_insert_of_makeFolder h
  have hfree : t.get? l ≠ some .folder := by
    rw [hnone]
    exact nofun
  exact ⟨l, locate_of_keepsFolders (keepsFolders_insert hfree _) hloc, hnone,
    get?_insert_self t (isAbove_of_get? hfree) _, fun k hk => get?_insert_of_ne t hk _⟩

/-- A folder is made where nothing stood. -/
theorem extends_of_makeFolder (h : t.makeFolder p host = .ok u) : t.Extends u := by
  obtain ⟨k, -, hfree, rfl⟩ := eq_insert_of_makeFolder h
  exact extends_insert hfree .folder

section Steps

variable {R : Tree base → Tree base → Prop} (hrefl : ∀ t, R t t)
include hrefl

/-- What holds between trees if one folder was made, or none, holds if a folder was needed. -/
theorem needFolder_rel (hstep : ∀ t u, t.makeFolder p host = .ok u → R t u) (t : Tree base) :
    R t (t.needFolder p host).1 := by
  unfold needFolder
  cases h : t.makeFolder p host with
  | ok u => exact hstep t u h
  | error trouble => exact hrefl t

/-- **What each new folder keeps, making folders keeps**, also when it fails. -/
theorem makeFolders_rel {ps : List Path} (htrans : ∀ t u v, R t u → R u v → R t v)
    (hstep : ∀ p ∈ ps, ∀ t u, t.makeFolder p host = .ok u → R t u) (t : Tree base) :
    R t (t.makeFolders ps host).1 := by
  induction ps generalizing t with
  | nil => exact hrefl t
  | cons p outer ih =>
    obtain ⟨hp, houter⟩ := List.forall_mem_cons.mp hstep
    have hneed := needFolder_rel hrefl hp t
    unfold makeFolders
    split
    · next u hu =>
      rw [hu] at hneed
      have hmade := htrans _ _ _ hneed (ih houter u)
      split
      · next v hv =>
        rw [hv] at hmade
        exact htrans _ _ _ hmade (needFolder_rel hrefl hp v)
      · exact hmade
    · exact hneed

end Steps

/-- **Making folders removes nothing.** -/
theorem extends_makeFolders (t : Tree base) (ps : List Path) (host : Host base) :
    t.Extends (t.makeFolders ps host).1 :=
  makeFolders_rel .refl (fun _ _ _ => .trans) (fun _ _ _ _ => extends_of_makeFolder) t

/-- Preparing for a file removes nothing. -/
theorem extends_prepare (t : Tree base) (p : Path) (host : Host base) :
    t.Extends (t.prepare p host).1 := by
  unfold prepare
  split
  · exact .refl t
  · exact extends_makeFolders t p.folders host

/-! ## 5. Saving -/

section Saving

variable {s : String} {w : Option (Location base)} {failure : SaveError}

/-- What a file holds that is read and found to hold a text. -/
theorem holds_iff : t.holds p s host = true ↔ t.read p host = .ok (bytesOf s) := by
  unfold holds
  cases t.read p host <;> simp

/-- What a write does that does not break off. -/
theorem write_eq_ok_iff : t.write p bytes host = (u, .ok l) ↔
    host.cut? p = none ∧ t.put p bytes host = .ok (u, l) := by
  unfold write
  rcases host.cut? p with _ | ⟨n, cut⟩
  · rcases t.put p bytes host with trouble | ⟨v, k⟩ <;> simp
  · rcases h : t.put p (bytes.take n) host with trouble | ⟨v, k⟩ <;> simp [h]

/-- **What a write does that fails**: nothing, or it breaks off, and the file holds the beginning. -/
theorem write_error_cases {cause : Trouble} (h : t.write p bytes host = (u, .error cause)) :
    u = t ∨ ∃ n l, host.cut? p = some (n, cause) ∧ t.put p (bytes.take n) host = .ok (u, l) := by
  unfold write at h
  rcases hcut : host.cut? p with _ | ⟨n, cut⟩
  · simp only [hcut] at h
    cases hput : t.put p bytes host with
    | error trouble => exact .inl (by simpa [hput] using (congrArg Prod.fst h).symm)
    | ok written => simp [hput] at h
  · simp only [hcut] at h
    cases hput : t.put p (bytes.take n) host with
    | error trouble => exact .inl (by simpa [hput] using (congrArg Prod.fst h).symm)
    | ok written =>
      obtain ⟨v, l⟩ := written
      simp only [hput, Prod.mk.injEq, Except.error.injEq] at h
      obtain ⟨rfl, rfl⟩ := h
      exact .inr ⟨n, l, rfl, hput⟩

/-- A file that holds the text is not written. -/
theorem update_of_holds (h : t.holds p s host = true) : t.update p s host = (t, .ok none) := by
  unfold update
  rw [if_pos h]

/-- On a plain system every other file is put. -/
theorem update_of_not_holds (h : t.holds p s = false) :
    t.update p s = match t.put p (bytesOf s) with
      | .error cause => (t, .error (.file p cause))
      | .ok (u, l) => (u, .ok (some l)) := by
  have hwrite : t.write p (bytesOf s) = match t.put p (bytesOf s) with
      | .error cause => (t, .error cause)
      | .ok (u, l) => (u, .ok l) := rfl
  unfold update
  rw [h, if_neg Bool.false_ne_true, hwrite]
  rcases t.put p (bytesOf s) with cause | ⟨u, l⟩ <;> rfl

/-- A file that does not hold the text is written. -/
theorem update_cases (h : t.update p s host = (u, .ok w)) :
    (t.read p host = .ok (bytesOf s) ∧ u = t ∧ w = none) ∨
      (t.read p host ≠ .ok (bytesOf s) ∧
        ∃ l, t.put p (bytesOf s) host = .ok (u, l) ∧ w = some l) := by
  unfold update at h
  split at h
  · next hheld =>
    obtain ⟨rfl, hw⟩ := Prod.mk.inj h
    exact .inl ⟨holds_iff.mp hheld, rfl, (Except.ok.inj hw).symm⟩
  · next hheld =>
    split at h
    · exact absurd (Prod.mk.inj h).2 nofun
    · next v l hwrite =>
      obtain ⟨rfl, hw⟩ := Prod.mk.inj h
      exact .inr ⟨mt holds_iff.mpr hheld, l, (write_eq_ok_iff.mp hwrite).2,
        (Except.ok.inj hw).symm⟩

/-- A file that is not written is as before, but for a write that breaks off. -/
theorem update_error_cases (h : t.update p s host = (u, .error failure)) :
    u = t ∨ ∃ n cause l, host.cut? p = some (n, cause) ∧ failure = .file p cause ∧
      t.put p ((bytesOf s).take n) host = .ok (u, l) := by
  unfold update at h
  split at h
  · exact absurd (Prod.mk.inj h).2 nofun
  · split at h
    · next v cause hwrite =>
      obtain ⟨rfl, hfailure⟩ := Prod.mk.inj h
      rcases write_error_cases hwrite with hsame | ⟨n, l, hcut, hput⟩
      · exact .inl hsame
      · exact .inr ⟨n, cause, l, hcut, (Except.error.inj hfailure).symm, hput⟩
    · exact absurd (Prod.mk.inj h).2 nofun

/-- On a plain system no write breaks off. -/
theorem eq_of_update_error (h : t.update p s = (u, .error failure)) : u = t := by
  rcases update_error_cases h with hsame | ⟨n, cause, l, hcut, -⟩
  · exact hsame
  · exact absurd hcut nofun

/-- **When a text is saved**: the folders are made, and the file holds it or is written. -/
theorem save_eq_ok_iff : t.save p s host = (v, .ok w) ↔
    ∃ u, t.prepare p host = (u, .ok ()) ∧ u.update p s host = (v, .ok w) := by
  unfold save
  rcases t.prepare p host with ⟨u, e | _⟩ <;> simp

/-- When it is not: the folders are not made, or the file is not written. -/
theorem save_eq_error_iff : t.save p s host = (v, .error failure) ↔
    t.prepare p host = (v, .error failure) ∨
      ∃ u, t.prepare p host = (u, .ok ()) ∧ u.update p s host = (v, .error failure) := by
  unfold save
  rcases t.prepare p host with ⟨u, e | _⟩ <;> simp

/-- **What saving a text does.**  The path leads to a location that holds the text now; every
folder is kept; and every other file holds what it held. -/
theorem exists_location_of_save (h : t.save p s host = (u, .ok w)) :
    ∃ l, u.locate p p.steps host = .ok l ∧ u.get? l = some (.file (bytesOf s)) ∧
      t.KeepsFolders u ∧
      ∀ k bytes, k ≠ l → t.get? k = some (.file bytes) → u.get? k = some (.file bytes) := by
  obtain ⟨mid, hprepare, hupdate⟩ := save_eq_ok_iff.mp h
  have hmid : t.Extends mid := by
    have hextends := extends_prepare t p host
    rwa [hprepare] at hextends
  rcases update_cases hupdate with ⟨hread, rfl, -⟩ | ⟨-, l, hput, -⟩
  · obtain ⟨l, hloc, hheld, -⟩ := read_eq_ok_iff_of_host.mp hread
    exact ⟨l, hloc, hheld, hmid.keepsFolders, fun k bytes _ hk => hmid k _ hk⟩
  · obtain ⟨hloc, hheld, hkept, helse⟩ := kept_of_put hput
    refine ⟨l, hloc, hheld, hmid.keepsFolders.trans hkept, fun k bytes hne hk => ?_⟩
    rw [helse k hne]
    exact hmid k _ hk

/-- A saved text is read. -/
theorem read_of_save (h : t.save p s = (u, .ok w)) : u.read p = .ok (bytesOf s) := by
  obtain ⟨l, hloc, hheld, -, -⟩ := exists_location_of_save h
  exact read_eq_ok_iff.mpr ⟨l, hloc, hheld⟩

end Saving

/-! ## 6. Files of one folder -/

/-- The folder that a path starts from. -/
def start (p : Path) : Location base :=
  if p.isRooted then .top else .work

/-- Where a name in a folder leads: to the folder, and then the name. -/
theorem exists_folder_of_locate_join {name : String} (hname : IsName name)
    (h : t.locate (p.join name) (p.join name).steps host = .ok l) :
    ∃ d, t.follow (start p) p.way host = .ok d ∧ t.get? d = some .folder ∧
      l = host.real (d.enter name) := by
  unfold locate resolve at h
  split at h
  · exact absurd h nofun
  · split at h
    · exact absurd h nofun
    · rw [Path.isRooted_join p hname, Path.steps_join p hname] at h
      obtain ⟨d, hd, hlast⟩ := follow_append h
      obtain ⟨hfolder, -, hend⟩ := follow_cons_eq_ok_iff.mp hlast
      exact ⟨d, hd, hfolder, (Except.ok.inj hend).symm⟩

/-- **Saving one file of a folder leaves the others as they are.** -/
theorem read_join_of_save {s name other : String} {w : Option (Location base)}
    {bytes : List UInt8} (hname : IsName name) (hother : IsName other) (hne : other ≠ name)
    (h : t.save (p.join name) s = (u, .ok w)) (hread : t.read (p.join other) = .ok bytes) :
    u.read (p.join other) = .ok bytes := by
  obtain ⟨l, hloc, -, hkept, hfiles⟩ := exists_location_of_save h
  obtain ⟨k, hk, hheld⟩ := read_eq_ok_iff.mp hread
  have hk' := locate_of_keepsFolders hkept hk
  obtain ⟨d, hd, -, rfl⟩ := exists_folder_of_locate_join hname hloc
  obtain ⟨d', hd', -, rfl⟩ := exists_folder_of_locate_join hother hk'
  obtain rfl : d' = d := Except.ok.inj (hd'.symm.trans hd)
  have hapart : d'.enter other ≠ d'.enter name := by
    intro heq
    have hnames : d'.names ++ [other] = d'.names ++ [name] := congrArg Location.names heq
    exact hne (List.singleton_inj.mp (List.append_cancel_left hnames))
  exact read_eq_ok_iff.mpr ⟨_, hk', hfiles _ bytes hapart hheld⟩

end Kept

end Tree

end Carryover.Files
