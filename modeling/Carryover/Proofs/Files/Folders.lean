/-
# Making folders again

`Tree.makeFolders` makes a folder with the folders around it.  Doing that again changes nothing more:

* once it has succeeded, it succeeds in every tree that keeps the folders
  (`Tree.makeFolders_of_keepsFolders`);
* once it has failed, it fails again (`Tree.makeFolders_again`).

The second time it may fail for another reason.  Under a file that is in the way the folders cannot
even be looked for, so what was `occupied` may become `notFolder`, if a folder was made that the way
leads through.  `Trouble.Recurs` allows for this and nothing else.

Each of the folders around a path begins the one before it (`Path.isChainOf_chain`).  So what keeps one
folder from being made keeps the next one from being reached (`Tree.needFolder_of_begins`).
-/
import Carryover.Proofs.Files.Place

namespace Carryover

/-! ## 1. Texts put together again -/

namespace Text

/-- The parts of a text hold no separator. -/
theorem forall_not_of_mem_split {sep : Char → Bool} {cs part : List Char}
    (h : part ∈ split sep cs) : ∀ c ∈ part, sep c = false := by
  induction cs generalizing part with
  | nil =>
    obtain rfl := List.mem_singleton.mp h
    exact fun c hc => absurd hc List.not_mem_nil
  | cons c cs ih =>
    unfold split at h
    split at h
    · rcases List.mem_cons.mp h with rfl | h
      · exact fun c hc => absurd hc List.not_mem_nil
      · exact ih h
    · next hc =>
      have hne : split sep cs ≠ [] := split_ne_nil cs
      obtain ⟨first, rest, hsplit⟩ := List.exists_cons_of_ne_nil hne
      rw [hsplit] at h ih
      rcases List.mem_cons.mp h with rfl | h
      · exact List.forall_mem_cons.mpr ⟨by simpa using hc, ih List.mem_cons_self⟩
      · exact ih (List.mem_cons_of_mem _ h)

/-- What is cut can be put together again. -/
theorem intercalate_split (s : Char) (cs : List Char) : [s].intercalate (split (· == s) cs) = cs := by
  induction cs with
  | nil => simp [split]
  | cons c cs ih =>
    have hne : split (· == s) cs ≠ [] := split_ne_nil cs
    unfold split
    split
    · next hc =>
      obtain rfl : c = s := by simpa using hc
      rw [List.intercalate_cons_of_ne_nil hne, ih]
      rfl
    · obtain ⟨first, rest, hsplit⟩ := List.exists_cons_of_ne_nil hne
      rw [hsplit] at ih ⊢
      cases rest with
      | nil => simpa using ih
      | cons next rest =>
        rw [List.intercalate_cons_cons] at ih ⊢
        rw [← ih]
        rfl

end Text

namespace Files

variable {base : List String} {t u v : Tree base} {p q r : Path} {ps : List Path}
  {l : Location base} {name : String} {host host' : Host base}

namespace Path

/-! ## 2. Folders around a path -/

/-- The path that pieces spell, the last one first. -/
def spelled (pieces : List String) : Path :=
  ⟨"/".intercalate pieces.reverse⟩

/-- A path is spelled by its pieces. -/
theorem spelled_pieces (p : Path) : spelled p.pieces.reverse = p := by
  have htext : ("/".intercalate p.pieces).toList = p.text.toList := by
    have hmap : p.pieces.map String.toList = Text.split (· == '/') p.text.toList := by
      simp [pieces, Text.cutAt, Function.comp_def]
    rw [String.toList_intercalate, hmap]
    exact Text.intercalate_split '/' p.text.toList
  unfold spelled
  rw [List.reverse_reverse, String.toList_inj.mp htext]

/-- A piece more is a slash and the piece. -/
theorem toList_spelled_cons (last : String) {rest : List String} (hne : rest ≠ []) :
    (spelled (last :: rest)).text.toList = (spelled rest).text.toList ++ '/' :: last.toList := by
  unfold spelled
  rw [List.reverse_cons,
    String.intercalate_append_of_ne_nil (by simpa using hne) (List.cons_ne_nil _ _)]
  simp

/-- The second path begins as the first one and goes on by these steps. -/
structure Begins (q p : Path) (more : List Part) : Prop where
  nonempty : q.text ≠ ""
  begins_text : q.text.toList <+: p.text.toList
  way_eq_append : p.way = q.way ++ more

namespace Begins

variable {more more' : List Part}

/-- A path begins as itself. -/
theorem refl (h : p.text ≠ "") : p.Begins p [] :=
  ⟨h, List.prefix_rfl, (List.append_nil _).symm⟩

theorem trans (h : q.Begins p more) (h' : p.Begins r more') : q.Begins r (more ++ more') :=
  ⟨h.nonempty, h.begins_text.trans h'.begins_text, by
    rw [h'.way_eq_append, h.way_eq_append, List.append_assoc]⟩

/-- A path goes on behind a slash. -/
theorem of_append {cs : List Char} (hne : q.text ≠ "")
    (h : p.text.toList = q.text.toList ++ '/' :: cs) : q.Begins p (wayOf cs) where
  nonempty := hne
  begins_text := ⟨_, h.symm⟩
  way_eq_append := by rw [way_eq, way_eq, h, wayOf_append_cons]

theorem text_ne (h : q.Begins p more) : p.text ≠ "" := by
  intro hempty
  have hprefix := h.begins_text
  rw [hempty] at hprefix
  exact h.nonempty (by simpa using hprefix)

/-- Both start from the same folder. -/
theorem start_eq (h : q.Begins p more) : (Tree.start p : Location base) = Tree.start q := by
  have hrooted : p.isRooted = q.isRooted := by
    obtain ⟨cs, hcs⟩ := h.begins_text
    rw [Bool.eq_iff_iff, isRooted_iff, isRooted_iff, ← hcs,
      List.head?_append_of_ne_nil _ (by simpa using h.nonempty)]
  unfold Tree.start
  rw [hrooted]

/-- What is no reason to refuse the longer path is none to refuse the shorter one. -/
theorem refusal?_eq_none (h : q.Begins p more) (hp : Tree.refusal? p = none) :
    Tree.refusal? q = none := by
  obtain ⟨cs, hcs⟩ := h.begins_text
  have htext : p.text = q.text ++ String.ofList cs := by
    rw [← String.toList_inj, String.toList_append, String.toList_ofList, hcs]
  unfold Tree.refusal? at hp ⊢
  split at hp
  · exact absurd hp nofun
  · next hnul =>
    split at hp
    · exact absurd hp nofun
    · next hlong =>
      rw [htext, String.utf8ByteSize_append] at hlong
      rw [if_neg (fun hmem => hnul (hcs ▸ List.mem_append_left _ hmem)), if_neg (by omega)]

end Begins

/-- Paths each of which begins the one before it and ends in front of a step of it. -/
def IsNested (ps : List Path) : Prop :=
  ps.IsChain fun p q => ∃ more ≠ [], q.Begins p more

/-- What is true of the chain of a path: it is nested, and of the path nothing but dots is left behind
it. -/
structure IsChainOf (p : Path) (ps : List Path) : Prop where
  nested : IsNested ps
  of_cons : ∀ q outer, ps = q :: outer → ∃ dots, (∀ d ∈ dots, d = Part.here) ∧ q.Begins p dots
  of_nil : ps = [] → ∀ d ∈ p.way, d = Part.here

/-- Behind what is spelled so far, the way goes on with the last piece. -/
theorem way_spelled_cons (last : String) {rest : List String} (hne : rest ≠ []) :
    (spelled (last :: rest)).way = (spelled rest).way ++ wayOf last.toList := by
  rw [way_eq, way_eq, toList_spelled_cons last hne, wayOf_append_cons]

namespace IsChainOf

variable {last : String} {rest : List String}

/-- The first path of a chain begins the path with a piece more. -/
theorem begins_cons (h : IsChainOf (spelled rest) (q :: ps)) (hne : rest ≠ []) (last : String) :
    ∃ dots, (∀ d ∈ dots, d = Part.here) ∧
      q.Begins (spelled (last :: rest)) (dots ++ wayOf last.toList) := by
  obtain ⟨dots, hdots, hq⟩ := h.of_cons q ps rfl
  exact ⟨dots, hdots, hq.trans (.of_append hq.text_ne (toList_spelled_cons last hne))⟩

/-- A piece that spells nothing or dots leaves the chain as it is. -/
theorem skip (h : IsChainOf (spelled rest) ps) (hne : rest ≠ [])
    (hdots : ∀ d ∈ wayOf last.toList, d = Part.here) : IsChainOf (spelled (last :: rest)) ps where
  nested := h.nested
  of_cons q outer hps := by
    subst hps
    obtain ⟨dots, hbefore, hq⟩ := h.begins_cons hne last
    exact ⟨_, List.forall_mem_append.mpr ⟨hbefore, hdots⟩, hq⟩
  of_nil hnil := by
    rw [way_spelled_cons last hne]
    exact List.forall_mem_append.mpr ⟨h.of_nil hnil, hdots⟩

/-- A piece that spells a step adds the path to the chain. -/
theorem cons (h : IsChainOf (spelled rest) ps) (hne : rest ≠ []) (hstep : wayOf last.toList ≠ []) :
    IsChainOf (spelled (last :: rest)) (spelled (last :: rest) :: ps) where
  nested := by
    cases ps with
    | nil => exact .singleton _
    | cons q outer =>
      obtain ⟨dots, -, hq⟩ := h.begins_cons hne last
      have hmore : dots ++ wayOf last.toList ≠ [] := List.append_ne_nil_of_right_ne_nil _ hstep
      exact List.isChain_cons_cons.mpr ⟨⟨_, hmore, hq⟩, h.nested⟩
  of_cons q outer hps := by
    obtain ⟨rfl, -⟩ := List.cons.inj hps
    have hself : (spelled (last :: rest)).text ≠ "" := by
      rw [← String.toList_inj.ne, toList_spelled_cons last hne]
      simp
    exact ⟨[], fun d hd => absurd hd List.not_mem_nil, .refl hself⟩
  of_nil := nofun

end IsChainOf

/-- The way that a piece spells is one step at most. -/
theorem wayOf_piece {piece : String} (h : ∀ c ∈ piece.toList, c ≠ '/') :
    wayOf piece.toList = if piece = "" then [] else [Part.ofText piece] := by
  unfold wayOf
  rw [Text.split_of_forall_not (by simpa using h)]
  by_cases hempty : piece = "" <;> simp [hempty]

/-- The heads of one piece. -/
theorem isChainOf_single (last : String) : IsChainOf (spelled [last]) (heads [last]) := by
  have hspelled : spelled [last] = ⟨last⟩ := by simp [spelled]
  unfold heads
  rw [hspelled]
  by_cases hempty : last = ""
  · rw [if_pos hempty, hempty]
    exact ⟨.nil, nofun, fun _ d hd => absurd hd List.not_mem_nil⟩
  · rw [if_neg hempty]
    refine ⟨.singleton _, ?_, nofun⟩
    rintro q outer ⟨⟩
    exact ⟨[], fun d hd => absurd hd List.not_mem_nil, .refl hempty⟩

/-- The heads of pieces, if there are pieces in front of the last one. -/
theorem heads_cons (last : String) {rest : List String} (hne : rest ≠ []) :
    heads (last :: rest) =
      if last = "" ∨ last = "." then heads rest else spelled (last :: rest) :: heads rest := by
  obtain ⟨piece, rest, rfl⟩ := List.exists_cons_of_ne_nil hne
  rfl

/-- **The heads of pieces are a chain of the path that they spell.** -/
theorem isChainOf_heads (pieces : List String) (h : ∀ s ∈ pieces, ∀ c ∈ s.toList, c ≠ '/') :
    IsChainOf (spelled pieces) (heads pieces) := by
  induction pieces with
  | nil => exact ⟨.nil, nofun, fun _ d hd => absurd hd List.not_mem_nil⟩
  | cons last rest ih =>
    obtain ⟨hlast, hrest⟩ := List.forall_mem_cons.mp h
    by_cases hnil : rest = []
    · subst hnil
      exact isChainOf_single last
    · rw [heads_cons last hnil]
      split
      · next hskip =>
        have hdots : ∀ d ∈ wayOf last.toList, d = Part.here := by
          rcases hskip with rfl | rfl <;> decide
        exact (ih hrest).skip hnil hdots
      · next hcounts =>
        have hstep : wayOf last.toList ≠ [] := by
          rw [wayOf_piece hlast, if_neg (not_or.mp hcounts).1]
          exact List.cons_ne_nil _ _
        exact (ih hrest).cons hnil hstep

/-- The pieces of a path hold no slash. -/
theorem no_slash_of_mem_pieces {piece : String} (h : piece ∈ p.pieces) :
    ∀ c ∈ piece.toList, c ≠ '/' := by
  obtain ⟨part, hpart, rfl⟩ := List.mem_map.mp h
  rw [String.toList_ofList]
  simpa using Text.forall_not_of_mem_split hpart

/-- **The chain of a path.** -/
theorem isChainOf_chain (p : Path) : p.IsChainOf p.chain := by
  have hheads := isChainOf_heads p.pieces.reverse fun s hs =>
    no_slash_of_mem_pieces (List.mem_reverse.mp hs)
  rwa [spelled_pieces] at hheads

/-- The pieces of characters, the last one first. -/
def piecesOf (cs : List Char) : List String :=
  ((Text.split (· == '/') cs).map String.ofList).reverse

theorem piecesOf_ne_nil (cs : List Char) : piecesOf cs ≠ [] := by
  simpa [piecesOf] using Text.split_ne_nil cs

/-- Characters without a slash are one piece. -/
theorem piecesOf_piece {piece : List Char} (h : ∀ c ∈ piece, c ≠ '/') :
    piecesOf piece = [String.ofList piece] := by
  have hsplit : Text.split (· == '/') piece = [piece] := Text.split_of_forall_not (by simpa using h)
  unfold piecesOf
  rw [hsplit]
  rfl

/-- Behind a slash stands one piece more. -/
theorem piecesOf_append_cons {cs piece : List Char} (h : ∀ c ∈ piece, c ≠ '/') :
    piecesOf (cs ++ '/' :: piece) = String.ofList piece :: piecesOf cs := by
  have hpiece := piecesOf_piece h
  unfold piecesOf at hpiece ⊢
  rw [Text.split_append_cons (by decide), List.map_append, List.reverse_append, hpiece]
  rfl

/-- A slash at the end does not change the heads. -/
theorem heads_piecesOf_slash (cs : List Char) :
    heads (piecesOf (cs ++ ['/'])) = heads (piecesOf cs) := by
  have hnone : ∀ c ∈ ([] : List Char), c ≠ '/' := fun c hc => absurd hc List.not_mem_nil
  rw [piecesOf_append_cons hnone, heads_cons _ (piecesOf_ne_nil cs), if_pos (.inl rfl)]

/-- **The folders around a name in a folder are the chain of the folder.** -/
theorem chain_join (p : Path) (h : IsName name) : (p.join name).chain = p.join name :: p.chain := by
  have hchain : ∀ q : Path, q.chain = heads (piecesOf q.text.toList) := fun _ => rfl
  have hself : spelled (piecesOf (p.join name).text.toList) = p.join name :=
    (p.join name).spelled_pieces
  have hkept : ¬ (name = "" ∨ name = ".") := not_or.mpr ⟨h.nonempty, h.not_here⟩
  rw [hchain, hchain]
  rcases p.toList_join name with ⟨hempty, hjoin⟩ | ⟨cs, hp, hjoin⟩ | ⟨-, hjoin⟩
  · rw [hjoin, piecesOf_piece h.no_slash, String.ofList_toList] at hself ⊢
    rw [hempty, ← hself]
    simp [heads, spelled, h.nonempty, piecesOf, Text.split]
  · rw [hjoin, piecesOf_append_cons h.no_slash, String.ofList_toList] at hself ⊢
    rw [heads_cons _ (piecesOf_ne_nil cs), if_neg hkept, hself, hp, heads_piecesOf_slash]
  · rw [hjoin, piecesOf_append_cons h.no_slash, String.ofList_toList] at hself ⊢
    rw [heads_cons _ (piecesOf_ne_nil _), if_neg hkept, hself]

theorem folders_join (p : Path) (h : IsName name) : (p.join name).folders = p.chain := by
  rw [folders, chain_join p h, List.tail_cons]

/-- **The folder of a name in a folder does not depend on the name.** -/
theorem parent?_join (p : Path) (h : IsName name) :
    (p.join name).parent? = some (p.chain.head?.getD ⟨if p.isRooted then "/" else ""⟩) := by
  unfold parent?
  rw [chain_join p h, isRooted_join p h]
  cases p.chain <;> rfl

end Path

namespace Tree

/-! ## 3. One folder -/

/-- A way in two parts is followed part by part, wherever it leads. -/
theorem follow_append_eq_bind {start : Location base} {steps more : List Part} :
    t.follow start (steps ++ more) host =
      (t.follow start steps host).bind (t.follow · more host) := by
  induction steps generalizing start with
  | nil => rfl
  | cons part rest ih =>
    simp only [List.cons_append, follow]
    rcases t.get? start with _ | _ | bytes
    · rfl
    · cases part with
      | here => exact ih
      | up => exact ih
      | name s =>
        by_cases hlong : longestName < s.utf8ByteSize
        · simp only [hlong, if_true]
          rfl
        · simp only [hlong, if_false]
          exact ih
    · rfl

/-- Ways depend on the links of a system alone. -/
theorem follow_of_real_eq (h : host'.real = host.real) {start : Location base}
    {steps : List Part} : t.follow start steps host' = t.follow start steps host := by
  have hstep : host'.step = host.step := by
    funext l part
    cases part <;> simp [Host.step, h]
  induction steps generalizing start with
  | nil => rfl
  | cons part rest ih => simp only [follow, hstep, ih]

theorem locate_of_real_eq (h : host'.real = host.real) (p : Path) (steps : List Part) :
    t.locate p steps host' = t.locate p steps host := by
  unfold locate resolve
  simp only [follow_of_real_eq h]

/-- The way of a path leads to a folder. -/
def HasFolder (t : Tree base) (p : Path) (host : Host base) : Prop :=
  ∃ l, t.locate p p.way host = .ok l ∧ t.get? l = some .folder

theorem HasFolder.of_keepsFolders (h : t.HasFolder p host) (hkept : t.KeepsFolders u) :
    u.HasFolder p host := by
  obtain ⟨l, hloc, hl⟩ := h
  exact ⟨l, locate_of_keepsFolders hkept hloc, hkept l hl⟩

/-- A way leads to a folder where its steps do: from there the dot behind a slash leads there too. -/
theorem follow_steps_of_way {start : Location base} (h : t.follow start p.way host = .ok l)
    (hl : t.get? l = some .folder) : t.follow start p.steps host = .ok l := by
  have hdot : t.follow l [.here] host = .ok l :=
    follow_cons_eq_ok_iff.mpr ⟨hl, fun _ hs => absurd hs nofun, rfl⟩
  unfold Path.steps
  rw [follow_append_eq_bind, h]
  split
  · exact hdot
  · rfl

/-- And nowhere else. -/
theorem follow_way_of_steps {start : Location base} (h : t.follow start p.steps host = .ok l)
    (hl : t.get? l = some .folder) : t.follow start p.way host = .ok l := by
  obtain ⟨mid, hmid, hend⟩ := follow_append h
  split at hend
  · obtain ⟨-, -, hdot⟩ := follow_cons_eq_ok_iff.mp hend
    obtain rfl : mid = l := Except.ok.inj hdot
    exact hmid
  · obtain rfl := Except.ok.inj hend
    exact hmid

theorem hasFolder_iff_steps :
    t.HasFolder p host ↔ ∃ l, t.locate p p.steps host = .ok l ∧ t.get? l = some .folder := by
  unfold HasFolder
  simp only [locate_eq_ok_iff]
  constructor
  · rintro ⟨l, ⟨hfree, hne, hfollow⟩, hl⟩
    exact ⟨l, ⟨hfree, hne, follow_steps_of_way hfollow hl⟩, hl⟩
  · rintro ⟨l, ⟨hfree, hne, hfollow⟩, hl⟩
    exact ⟨l, ⟨hfree, hne, follow_way_of_steps hfollow hl⟩, hl⟩

/-- **A path leads to a folder** if its way does, and the system lets it be seen. -/
theorem isFolder_iff :
    t.isFolder p host = true ↔ t.HasFolder p host ∧ host.trouble? .look p = none := by
  have hfind : t.isFolder p host = true ↔ ∃ l, t.find p .look host = .ok (l, .folder) := by
    unfold isFolder
    rcases t.find p .look host with trouble | ⟨l, _ | bytes⟩ <;> simp
  rw [hfind, hasFolder_iff_steps]
  simp only [find_eq_ok_iff_of_host]
  constructor
  · rintro ⟨l, hloc, hl, hlook⟩
    exact ⟨⟨l, hloc, hl⟩, hlook⟩
  · rintro ⟨⟨l, hloc, hl⟩, hlook⟩
    exact ⟨l, hloc, hl, hlook⟩

/-- On a plain system that is all. -/
theorem isFolder_iff_hasFolder : t.isFolder p = true ↔ t.HasFolder p .plain := by
  rw [isFolder_iff]
  exact and_iff_left rfl

/-- Why a folder cannot be made. -/
theorem makeFolder_of_some {e : Entry} (h : t.locate p p.way host = .ok l)
    (hl : t.get? l = some e) : t.makeFolder p host = .error .occupied := by
  unfold makeFolder obstacle?
  rw [h]
  simp [bind, Except.bind, throw, throwThe, MonadExceptOf.throw, hl]

theorem makeFolder_of_error {e : Trouble} (h : t.locate p p.way host = .error e) :
    t.makeFolder p host = .error e := by
  unfold makeFolder
  rw [h]
  rfl

/-- On a plain system no path ends in a link. -/
theorem endsInLink_plain (t : Tree base) (p : Path) : t.endsInLink p = false := by
  unfold endsInLink
  split
  · simp [Host.isLink, Host.plain]
  · rfl

/-- So a folder can be made wherever nothing is. -/
theorem makeFolder_of_none (h : t.locate p p.way = .ok l) (hl : t.get? l = none) :
    t.makeFolder p = .ok (t.insert l .folder) := by
  have hfree : t.obstacle? p l = none := by
    unfold obstacle?
    rw [hl, endsInLink_plain]
    rfl
  unfold makeFolder
  rw [h]
  simp [bind, Except.bind, pure, Except.pure, hfree]

/-- **A folder that is there is not made again.** -/
theorem needFolder_of_isFolder (h : t.isFolder p host = true) :
    t.needFolder p host = (t, .ok ()) := by
  obtain ⟨⟨l, hloc, hl⟩, -⟩ := isFolder_iff.mp h
  unfold needFolder
  rw [makeFolder_of_some hloc hl, h]
  rfl

/-- What needing a folder does that is not there: it is made, or nothing changes. -/
theorem needFolder_of_not_isFolder (h : t.isFolder p host = false) :
    t.needFolder p host = match t.makeFolder p host with
      | .ok u => (u, .ok ())
      | .error e => (t, .error e) := by
  unfold needFolder
  cases t.makeFolder p host with
  | ok u => rfl
  | error e => simp [h]

/-- A folder that was made is there. -/
theorem hasFolder_of_makeFolder (h : t.makeFolder p host = .ok u) : u.HasFolder p host := by
  obtain ⟨l, hloc, -, hl, -⟩ := kept_of_makeFolder h
  exact ⟨l, hloc, hl⟩

/-- **A folder that was needed is there**, and if it is not there nothing has changed. -/
theorem needFolder_cases (t : Tree base) (p : Path) (host : Host base) :
    (∃ u, t.needFolder p host = (u, .ok ()) ∧ u.HasFolder p host) ∨
      ∃ e, t.needFolder p host = (t, .error e) ∧ t.makeFolder p host = .error e ∧
        t.isFolder p host = false := by
  cases hp : t.isFolder p host with
  | true => exact .inl ⟨t, needFolder_of_isFolder hp, (isFolder_iff.mp hp).1⟩
  | false =>
    rw [needFolder_of_not_isFolder hp]
    cases hmake : t.makeFolder p host with
    | ok u => exact .inl ⟨u, rfl, hasFolder_of_makeFolder hmake⟩
    | error e => exact .inr ⟨e, rfl, rfl, rfl⟩

/-! ## 4. Folders in folders -/

section Chain

variable {outer : List Path} {made : Except Trouble Unit} {e : Trouble}

/-- Where a folder is there, or cannot be made for another reason than that folders around it are
missing, that is all. -/
theorem makeFolders_of_done (h : t.needFolder p host = (u, made)) (hmade : made ≠ .error .missing) :
    t.makeFolders (p :: outer) host = (u, made) := by
  unfold makeFolders
  rw [h]
  split
  · next v heq =>
    obtain ⟨-, rfl⟩ := Prod.mk.inj heq
    exact absurd rfl hmade
  · rfl

/-- Where folders around it are missing they are made first. -/
theorem makeFolders_of_missing (h : t.needFolder p host = (t, .error .missing)) :
    t.makeFolders (p :: outer) host = match t.makeFolders outer host with
      | (u, .ok ()) => u.needFolder p host
      | (u, .error e) => (u, .error e) := by
  conv => lhs; unfold makeFolders
  simp only [h]
  rcases t.makeFolders outer host with ⟨u, e | _⟩ <;> rfl

/-- The first folder is there already. -/
theorem makeFolders_of_isFolder (h : t.isFolder p host = true) :
    t.makeFolders (p :: outer) host = (t, .ok ()) :=
  makeFolders_of_done (needFolder_of_isFolder h) nofun

/-- **Once folders are made the first of them is there.** -/
theorem hasFolder_of_makeFolders (h : t.makeFolders (p :: outer) host = (u, .ok ())) :
    u.HasFolder p host := by
  rcases t.needFolder_cases p host with ⟨v, hneed, hp⟩ | ⟨e, hneed, -, -⟩
  · rw [makeFolders_of_done hneed nofun] at h
    obtain ⟨rfl, -⟩ := Prod.mk.inj h
    exact hp
  · by_cases hmissing : e = .missing
    · subst hmissing
      rw [makeFolders_of_missing hneed] at h
      split at h
      · next v hv =>
        rcases v.needFolder_cases p host with ⟨w, hw, hp⟩ | ⟨e, hw, -, -⟩
        · obtain ⟨rfl, -⟩ := Prod.mk.inj (hw.symm.trans h)
          exact hp
        · exact absurd (Prod.mk.inj (hw.symm.trans h)).2 nofun
      · exact absurd (Prod.mk.inj h).2 nofun
    · rw [makeFolders_of_done hneed (by simpa using hmissing)] at h
      exact absurd (Prod.mk.inj h).2 nofun

/-- **Folders that were made are not made again**, while folders are kept, even if the system has come
to refuse other calls than to look at them. -/
theorem makeFolders_of_made (h : t.makeFolders ps host = (u, .ok ())) (hkept : u.KeepsFolders v)
    (hreal : host'.real = host.real) (hlook : ∀ p ∈ ps, host'.trouble? .look p = none) :
    v.makeFolders ps host' = (v, .ok ()) := by
  cases ps with
  | nil => rfl
  | cons p outer =>
    obtain ⟨l, hloc, hl⟩ := (hasFolder_of_makeFolders h).of_keepsFolders hkept
    have hthere : v.HasFolder p host' := ⟨l, (locate_of_real_eq hreal p p.way).trans hloc, hl⟩
    exact makeFolders_of_isFolder (isFolder_iff.mpr ⟨hthere, hlook p List.mem_cons_self⟩)

/-- The same on a plain system. -/
theorem makeFolders_of_keepsFolders (h : t.makeFolders ps = (u, .ok ())) (hkept : u.KeepsFolders v) :
    v.makeFolders ps = (v, .ok ()) :=
  makeFolders_of_made h hkept rfl fun _ _ => rfl

end Chain

/-! ## 5. Folders that were not made -/

/-- What keeps a path from being followed keeps its folder from being made. -/
theorem needFolder_of_locate_error {e : Trouble} (h : t.locate p p.way = .error e) :
    t.needFolder p = (t, .error e) := by
  have hp : t.isFolder p = false := by
    rw [← Bool.not_eq_true]
    intro hp
    obtain ⟨l, hl, -⟩ := isFolder_iff_hasFolder.mp hp
    exact absurd (h.symm.trans hl) nofun
  rw [needFolder_of_not_isFolder hp, makeFolder_of_error h]

/-- A path that is refused is not one whose folders are missing. -/
theorem refusal?_eq_none_of_missing (h : t.needFolder p = (t, .error .missing)) :
    refusal? p = none := by
  cases hrefused : refusal? p with
  | none => rfl
  | some e =>
    have hloc : t.locate p p.way = .error e := by
      unfold locate
      rw [hrefused]
    obtain rfl : e = .missing := by
      simpa using (Prod.mk.inj ((needFolder_of_locate_error hloc).symm.trans h)).2
    unfold refusal? at hrefused
    split at hrefused
    · exact absurd hrefused nofun
    · split at hrefused <;> exact absurd hrefused nofun

/-- A longer path is followed from where the shorter one leads. -/
theorem locate_of_begins {more : List Part} (h : q.Begins p more) (hp : refusal? p = none) :
    t.locate p p.way = (t.locate q q.way).bind (t.follow · more) := by
  unfold locate resolve
  rw [hp, h.refusal?_eq_none hp]
  simp only [h.nonempty, h.text_ne, if_false]
  have hstart : (start p : Location base) = start q := h.start_eq
  unfold start at hstart
  rw [hstart, h.way_eq_append, follow_append_eq_bind]

/-- **What keeps a folder from being made keeps those in it from being made.**  Only where a file is
in the way, the reason is another one. -/
theorem needFolder_of_begins {more : List Part} {e : Trouble} (h : q.Begins p more)
    (hmore : more ≠ []) (hp : refusal? p = none) (hq : t.needFolder q = (t, .error e)) :
    t.needFolder p = (t, .error e) ∨
      (e = .occupied ∧ t.needFolder p = (t, .error .notFolder)) := by
  have hbegins := locate_of_begins (t := t) h hp
  cases hloc : t.locate q q.way with
  | error trouble =>
    have hsame := hq.symm.trans (needFolder_of_locate_error hloc)
    obtain rfl : e = trouble := by simpa using hsame
    rw [hloc] at hbegins
    exact .inl (needFolder_of_locate_error hbegins)
  | ok l =>
    rcases t.needFolder_cases q .plain with ⟨u, hneed, -⟩ | ⟨trouble, hneed, hmake, hfolder⟩
    · exact absurd (Prod.mk.inj (hq.symm.trans hneed)).2 nofun
    · obtain rfl : e = trouble := by simpa using hq.symm.trans hneed
      rcases hl : t.get? l with _ | _ | bytes
      · rw [makeFolder_of_none hloc hl] at hmake
        exact absurd hmake nofun
      · rw [isFolder_iff_hasFolder.mpr ⟨l, hloc, hl⟩] at hfolder
        exact absurd hfolder nofun
      · rw [makeFolder_of_some hloc hl] at hmake
        obtain rfl := Except.error.inj hmake
        obtain ⟨part, rest, rfl⟩ := List.exists_cons_of_ne_nil hmore
        have hnot : t.locate p p.way = .error .notFolder := by
          rw [hbegins, hloc]
          simp [Except.bind, follow, hl]
        exact .inr ⟨rfl, needFolder_of_locate_error hnot⟩

end Tree

/-- Folders that could not be made for the one reason may not be made again for the other. -/
def Trouble.Recurs (e e' : Trouble) : Prop :=
  e' = e ∨ (e = .occupied ∧ e' = .notFolder)

namespace Trouble.Recurs

variable {e e' e'' : Trouble}

theorem refl (e : Trouble) : e.Recurs e :=
  .inl rfl

theorem trans (h : e.Recurs e') (h' : e'.Recurs e'') : e.Recurs e'' := by
  rcases h' with rfl | ⟨rfl, rfl⟩
  · exact h
  · rcases h with heq | ⟨-, heq⟩
    · exact .inr ⟨heq.symm, rfl⟩
    · exact absurd heq nofun

end Trouble.Recurs

namespace Tree

/-- Where the folders around a folder are not made, this one is not made either. -/
theorem makeFolders_of_around {outer : List Path} {more : List Part} {e : Trouble}
    (hq : q.Begins p more) (hmore : more ≠ []) (hp : refusal? p = none)
    (h : t.makeFolders (q :: outer) = (t, .error e)) :
    ∃ e', t.makeFolders (p :: q :: outer) = (t, .error e') ∧ e.Recurs e' := by
  rcases t.needFolder_cases q .plain with ⟨u, hneed, -⟩ | ⟨trouble, hneed, -, -⟩
  · rw [makeFolders_of_done hneed nofun] at h
    exact absurd (Prod.mk.inj h).2 nofun
  · by_cases hmissing : trouble = .missing
    · subst hmissing
      rcases needFolder_of_begins hq hmore hp hneed with hsame | ⟨heq, -⟩
      · refine ⟨e, ?_, .refl e⟩
        rw [makeFolders_of_missing hsame, h]
      · exact absurd heq nofun
    · rw [makeFolders_of_done hneed (by simpa using hmissing)] at h
      obtain rfl : trouble = e := by simpa using h
      rcases needFolder_of_begins hq hmore hp hneed with hsame | ⟨rfl, hnot⟩
      · exact ⟨trouble, makeFolders_of_done hsame (by simpa using hmissing), .refl trouble⟩
      · exact ⟨.notFolder, makeFolders_of_done hnot (by decide), .inr ⟨rfl, rfl⟩⟩

/-- **Folders that were not made are not made the second time, and then nothing changes.** -/
theorem makeFolders_again {e : Trouble} (hnested : Path.IsNested ps)
    (h : t.makeFolders ps = (u, .error e)) :
    ∃ e', u.makeFolders ps = (u, .error e') ∧ e.Recurs e' := by
  induction ps generalizing t u e with
  | nil => exact absurd (Prod.mk.inj h).2 nofun
  | cons p outer ih =>
    rcases t.needFolder_cases p .plain with ⟨v, hneed, -⟩ | ⟨trouble, hneed, -, -⟩
    · rw [makeFolders_of_done hneed nofun] at h
      exact absurd (Prod.mk.inj h).2 nofun
    · by_cases hmissing : trouble = .missing
      · subst hmissing
        rw [makeFolders_of_missing hneed] at h
        split at h
        · next v hv =>
          -- The folders around it are there now, and it cannot be made in them.
          rcases v.needFolder_cases p .plain with ⟨w, hw, -⟩ | ⟨trouble, hw, -, -⟩
          · exact absurd (Prod.mk.inj (hw.symm.trans h)).2 nofun
          · obtain ⟨rfl, hsame⟩ := Prod.mk.inj (hw.symm.trans h)
            obtain rfl := Except.error.inj hsame
            by_cases hagain : trouble = .missing
            · subst hagain
              have houter : v.makeFolders outer = (v, .ok ()) :=
                makeFolders_of_keepsFolders hv fun _ hl => hl
              refine ⟨.missing, ?_, .refl _⟩
              rw [makeFolders_of_missing hw, houter]
              exact hw
            · exact ⟨trouble, makeFolders_of_done hw (by simpa using hagain), .refl _⟩
        · next v trouble hv =>
          -- One of the folders around it cannot be made, and then not this one either.
          obtain ⟨rfl, hsame⟩ := Prod.mk.inj h
          obtain rfl := Except.error.inj hsame
          have hp := refusal?_eq_none_of_missing hneed
          cases outer with
          | nil => exact absurd (Prod.mk.inj hv).2 nofun
          | cons q outer =>
            obtain ⟨⟨more, hmore, hq⟩, hnested⟩ := List.isChain_cons_cons.mp hnested
            obtain ⟨e', hagain, hrecurs⟩ := ih hnested hv
            obtain ⟨e'', hinner, hrecurs'⟩ := makeFolders_of_around hq hmore hp hagain
            exact ⟨e'', hinner, hrecurs.trans hrecurs'⟩
      · rw [makeFolders_of_done hneed (by simpa using hmissing)] at h
        obtain ⟨rfl, hsame⟩ := Prod.mk.inj h
        obtain rfl := Except.error.inj hsame
        exact ⟨trouble, makeFolders_of_done hneed (by simpa using hmissing), .refl _⟩

end Tree
end Files
end Carryover
