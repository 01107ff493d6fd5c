/-
# One file of one folder

Generating the module of a spec writes one file or none (`generateInto_confined`).  A spec that the
check refuses touches nothing at all.  For a spec that it accepts the file is that of a name in the
folder for modules (`IsModuleAt`), and the name leads nowhere else by itself: it is neither empty nor
a dot or two, and holds no slash.  Only a link of this name can lead somewhere else.

What the call comes to is `Confined`, in three cases.

* The module was not saved, and all files are as before.
* The write broke off.  The file was emptied before, so it holds the beginning of the module.
* The module is in place.  Where the system lets it be seen, a second call writes nothing, and its
  account is the same but for where the file was written.

In each case all other files are as before, and new folders are the folder for modules and those
around it.  They stay, also if the call fails.  `exists_call_not_confined` has a system for each way in
which a call does more than to write one file of its folder or nothing.
-/
import Carryover.Proofs.Files.Saved
import Carryover.Proofs.Program.Account

namespace Carryover.Program

open Files

variable {base : List String} {out : Path} {s : Spec} {t u : Tree base} {host : Host base}

/-! ## 1. What a call comes to -/

/-- A location is that of a spec's module in a folder: the module's file leads there, and so does the
name of the module from the folder. -/
structure IsModuleAt (out : Path) (s : Spec) (u : Tree base) (l : Location base)
    (host : Host base) : Prop where
  leads : u.locate (moduleFile out s) (moduleFile out s).steps host = .ok l
  child : ∃ d, u.follow (Tree.start out) out.way host = .ok d ∧ u.get? d = some .folder ∧
    l = host.real (d.enter (moduleFileName s.component))

/-- **What it comes to to generate a module from these artifacts**: the tree that is left, the events,
and the account or the error. -/
inductive Confined (out : Path) (s : Spec) (a : Artifacts) (t : Tree base) (host : Host base) :
    Tree base × List Event × Except GenerationError (Generation base) → Prop where
  /-- The module was not saved, and no file has changed. -/
  | unsaved {u : Tree base} {e : SaveError} (adds : Tree.AddsFolders out.chain t u host)
      (files : ∀ l bytes, u.get? l = some (.file bytes) ↔ t.get? l = some (.file bytes)) :
      Confined out s a t host (u, synthesisEvents s a, .error (.unsaved e))
  /-- The write of the module broke off, and no other file has changed. -/
  | brokenOff {u : Tree base} {n : Nat} {cause : Trouble} {l : Location base}
      (cut : host.cut? (moduleFile out s) = some (n, cause))
      (place : IsModuleAt out s u l host)
      (held : u.get? l = some (.file ((bytesOf (s.moduleText a)).take n)))
      (elsewhere : ∀ k, k ≠ l → Tree.KeepsAt out.chain t u k host) :
      Confined out s a t host
        (u, synthesisEvents s a, .error (.unsaved (.file (moduleFile out s) cause)))
  /-- The module is in place, and no other file has changed. -/
  | placed {u : Tree base} {g : Generation base} {l : Location base}
      (account : g = .ofSpec s a out g.written)
      (place : IsModuleAt out s u l host)
      (held : u.get? l = some (.file (bytesOf (s.moduleText a))))
      (elsewhere : ∀ k, k ≠ l → Tree.KeepsAt out.chain t u k host)
      (written : g.written =
        if t.get? l = some (.file (bytesOf (s.moduleText a))) ∧
          host.trouble? .read (moduleFile out s) = none then none else some l)
      (again : ∀ host' : Host base, host'.real = host.real →
        (∀ q ∈ out.chain, host'.trouble? .look q = none) →
        host'.trouble? .read (moduleFile out s) = none →
        generateInto out s u host' = (u,
          synthesisEvents s a ++ [.placed s.component (moduleFile out s)],
          .ok { g with written := none })) :
      Confined out s a t host
        (u, synthesisEvents s a ++ [.placed s.component (moduleFile out s)], .ok g)

/-! ## 2. Every call -/

/-- The file of a module leads into the folder. -/
theorem isModuleAt_of_locate {l : Location base} (hname : IsName (moduleFileName s.component))
    (h : u.locate (moduleFile out s) (moduleFile out s).steps host = .ok l) :
    IsModuleAt out s u l host :=
  ⟨h, Tree.exists_folder_of_locate_join hname h⟩

/-- The generation of a module from its artifacts is confined. -/
theorem confined_generateInto (hcheck : s.check = .ok ()) :
    Confined out s s.artifacts t host (generateInto out s t host) := by
  have hname := isName_moduleFileName (wellFormed_of_check hcheck).component_valid
  have hfolders : (moduleFile out s).folders = out.chain := out.folders_join hname
  rcases hsave : t.save (moduleFile out s) (s.moduleText s.artifacts) host with ⟨u, e | w⟩
  · rw [generateInto_of_unsaved hcheck hsave]
    rcases Tree.unsaved_cases hsave with hadds | ⟨n, cause, l, hcut, rfl, hloc, hheld, helsewhere⟩
    · rw [hfolders] at hadds
      exact .unsaved hadds fun l bytes => (hadds l).file_iff
    · rw [hfolders] at helsewhere
      exact .brokenOff hcut (isModuleAt_of_locate hname hloc) hheld helsewhere
  · obtain ⟨l, hloc, hheld, helsewhere, hwritten⟩ := Tree.exists_saved_of_save hsave
    rw [hfolders] at helsewhere
    rw [generateInto_of_saved hcheck hsave]
    refine .placed rfl (isModuleAt_of_locate hname hloc) hheld helsewhere hwritten ?_
    intro host' hreal hlook hread
    rw [← hfolders] at hlook
    exact generateInto_of_saved hcheck (Tree.save_again_of_host hsave hreal hlook hread)

/-- **Generating a module writes one file of the folder for modules, or none.** -/
theorem generateInto_confined (out : Path) (s : Spec) (t : Tree base) (host : Host base) :
    (∀ r, s.check = .error r → generateInto out s t host = (t, [], .error (.rejected r))) ∧
    (s.check = .ok () → IsName (moduleFileName s.component) ∧
      ∃ a, s.synthesize = .ok a ∧ Confined out s a t host (generateInto out s t host)) := by
  constructor
  · exact fun r => generateInto_of_refused
  · intro hcheck
    exact ⟨isName_moduleFileName (wellFormed_of_check hcheck).component_valid, s.artifacts,
      synthesize_of_check hcheck, confined_generateInto hcheck⟩

/-! ## 3. A call that writes one file -/

/-- A folder for modules with a file that is no text under the name of a module, and another file. -/
def staleModules : Tree :=
  ⟨[(.inside ["out"], .folder),
    (.inside ["out", "counter_state.rs"], .file [0xff]),
    (.inside ["out", "label_state.rs"], .file [0x2f, 0x2f])]⟩

/-- The module replaces the one file, and the other is as before.  The second call writes nothing. -/
theorem confined_staleModules :
    raisedCounter.check = .ok () ∧
    ∃ u events g, generateInto ⟨"out"⟩ raisedCounter staleModules = (u, events, .ok g) ∧
      g.written = some (.inside ["out", "counter_state.rs"]) ∧
      u.get? (.inside ["out", "label_state.rs"]) = some (.file [0x2f, 0x2f]) ∧
      generateInto ⟨"out"⟩ raisedCounter u = (u, events, .ok { g with written := none }) := by
  obtain ⟨-, haccepted⟩ := generateInto_confined ⟨"out"⟩ raisedCounter staleModules .plain
  obtain ⟨-, a, hsynthesize, hconfined⟩ := haccepted check_raisedCounter
  obtain rfl := Except.ok.inj ((synthesize_of_check check_raisedCounter).symm.trans hsynthesize)
  have hsucceeds : (generateInto ⟨"out"⟩ raisedCounter staleModules).2.2.isOk = true := by
    decide +kernel
  generalize hcall : generateInto ⟨"out"⟩ raisedCounter staleModules = outcome at hconfined hsucceeds
  cases hconfined with
  | unsaved adds files => exact absurd hsucceeds nofun
  | brokenOff cut place held elsewhere => exact absurd cut nofun
  | @placed u g l account place held elsewhere written again =>
    have hplace : l = .inside ["out", "counter_state.rs"] :=
      (Tree.eq_place_of_locate place.leads).trans (by decide +kernel)
    have hstale : staleModules.get? l ≠
        some (.file (bytesOf (raisedCounter.moduleText raisedCounter.artifacts))) := by
      rw [hplace]
      decide +kernel
    refine ⟨check_raisedCounter, u, _, g, rfl, ?_, ?_, again .plain rfl (fun _ _ => rfl) rfl⟩
    · rw [written, if_neg fun h => hstale h.1, hplace]
    · have hother : (.inside ["out", "label_state.rs"] : Location) ≠ l := by
        rw [hplace]
        decide
      have hbefore : staleModules.get? (.inside ["out", "label_state.rs"]) =
          some (.file [0x2f, 0x2f]) := by
        decide +kernel
      rcases elsewhere _ hother with hsame | ⟨hnone, -⟩
      · exact hsame.trans hbefore
      · exact absurd (hnone.symm.trans hbefore) nofun

/-! ## 4. Calls that do more -/

/-- A system with no room for more than ten bytes. -/
def fullHost : Host where
  trouble? _ _ := none
  cut? _ := some (10, .noSpace)
  real l := l

/-- A system on which no file can be read. -/
def sealedHost : Host where
  trouble? call _ := if call = .read then some .denied else none
  cut? _ := none
  real l := l

/-- A system with a link from the file of one module to that of another. -/
def linkedHost : Host where
  trouble? _ _ := none
  cut? _ := none
  real l :=
    if l = .inside ["out", "counter_state.rs"] then .inside ["out", "label_state.rs"] else l

/-- The folder for modules, with the module that the link leads to. -/
def linkedModules : Tree :=
  ⟨[(.inside ["out"], .folder), (.inside ["out", "label_state.rs"], .file [0x2f, 0x2f])]⟩

/-- A file where a folder for modules would be. -/
def blockedFolder : Tree :=
  ⟨[(.inside ["a"], .file [0x2f])]⟩

/-- A way to that folder through one that is called as the module. -/
def throughModule : Path :=
  ⟨"counter_state.rs/../a/out"⟩

/-- **A call may do more than write one file of one folder or nothing.**  A call that fails may leave
a file that holds something else than before, or a folder that is in the way of another call.  A call
that succeeds may change a file of another name, to which there is a link.  And a second call may
write the file again, which it cannot read. -/
theorem exists_call_not_confined :
    (¬ ∀ (out : Path) (s : Spec) (t : Tree) (host : Host),
      (generateInto out s t host).2.2.isOk = false → ∀ l bytes,
        t.get? l = some (.file bytes) →
          (generateInto out s t host).1.get? l = some (.file bytes)) ∧
    (¬ ∀ (out out' : Path) (s : Spec) (t : Tree),
      (generateInto out s t).2.2.isOk = false → (generateInto out' s t).2.2.isOk = true →
        (generateInto out' s (generateInto out s t).1).2.2.isOk = true) ∧
    (¬ ∀ (s : Spec) (t : Tree) (host : Host),
      (generateInto ⟨"out"⟩ s t host).2.2.isOk = true → ∀ l bytes,
        l ≠ .inside ["out", moduleFileName s.component] → t.get? l = some (.file bytes) →
          (generateInto ⟨"out"⟩ s t host).1.get? l = some (.file bytes)) ∧
    ¬ ∀ (out : Path) (s : Spec) (t : Tree) (host : Host),
      (generateInto out s t host).2.2.isOk = true → ∀ g,
        (generateInto out s (generateInto out s t host).1 host).2.2 = .ok g → g.written = none := by
  refine ⟨fun h => ?_, fun h => ?_, fun h => ?_, fun h => ?_⟩
  · have hkept := h ⟨"out"⟩ raisedCounter staleModules fullHost (by decide +kernel)
      (.inside ["out", "counter_state.rs"]) [0xff] (by decide +kernel)
    exact absurd hkept (by decide +kernel)
  · have hsucceeds := h throughModule ⟨"."⟩ raisedCounter blockedFolder (by decide +kernel)
      (by decide +kernel)
    exact absurd hsucceeds (by decide +kernel)
  · have hkept := h raisedCounter linkedModules linkedHost (by decide +kernel)
      (.inside ["out", "label_state.rs"]) [0x2f, 0x2f] (by decide +kernel) (by decide +kernel)
    exact absurd hkept (by decide +kernel)
  · have hwritten : ((generateInto ⟨"out"⟩ raisedCounter
        (generateInto ⟨"out"⟩ raisedCounter staleModules sealedHost).1 sealedHost).2.2.toOption.bind
          (·.written)) ≠ none := by
      decide +kernel
    cases hsecond : (generateInto ⟨"out"⟩ raisedCounter
        (generateInto ⟨"out"⟩ raisedCounter staleModules sealedHost).1 sealedHost).2.2 with
    | error e =>
      rw [hsecond] at hwritten
      exact hwritten rfl
    | ok g =>
      rw [hsecond] at hwritten
      exact hwritten (h ⟨"out"⟩ raisedCounter staleModules sealedHost (by decide +kernel) g hsecond)

end Carryover.Program
