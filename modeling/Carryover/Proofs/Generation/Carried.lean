/-
# State is carried whole or not at all

What `carryForward` comes to depends on two questions only: does a component show a container, and
are the two components of one kind.  If they are, all of the container is carried and nothing else
(`carryForward_of_kind_eq`).  A component is its kind, its container and its salutation
(`Component.eq_of_shown`), so the one that state was carried to is known completely, and a chain of
generations can be cut short (`carryAlong_concat`).

That the components stay apart from each other, now and later, is said on a `Stage`.
-/
import Carryover.Proofs.Generation.Life
import Carryover.Proofs.Generation.Slots
import Carryover.Proofs.Generation.Stage

namespace Carryover.State

/-! ## 1. What a component is -/

/-- A component that is not hollow shows a container if it says that it keeps state. -/
theorem exists_container? {c : Component} (h : c.kind ≠ .hollow) (hstate : c.hasState = true) :
    ∃ state, c.container? = some state := by
  cases c with
  | badge => exact absurd hstate nofun
  | hollow => exact absurd rfl h
  | _ => exact ⟨_, rfl⟩

/-- It shows none if it says that it keeps none. -/
theorem container?_eq_none {c : Component} (h : c.hasState = false) : c.container? = none := by
  cases c with
  | badge => rfl
  | _ => exact absurd h nofun

/-- Whether a component says that it keeps state is a matter of its kind. -/
theorem hasState_of_kind_eq {c c' : Component} (h : c.kind = c'.kind) :
    c.hasState = c'.hasState := by
  have hbadge : ∀ c : Component, c.hasState = decide (c.kind ≠ .badge) := by
    intro c
    cases c <;> rfl
  rw [hbadge c, hbadge c', h]

/-- A component shows a container of its own kind. -/
theorem kind_of_container? {c : Component} {state : Container} (h : c.container? = some state) :
    state.kind = c.kind := by
  cases c with
  | badge => exact absurd h nofun
  | hollow => exact absurd h nofun
  | _ =>
    obtain rfl := Option.some.inj h
    rfl

/-- **A component is its kind, its container and its salutation.** -/
theorem Component.eq_of_shown {c c' : Component} (hkind : c.kind = c'.kind)
    (hcontainer : c.container? = c'.container?) (hsalutation : c.salutation = c'.salutation) :
    c = c' := by
  cases c with
  | counter s =>
    obtain ⟨s', rfl⟩ := counter_of_kind hkind.symm
    obtain rfl := Container.counter.inj (Option.some.inj hcontainer)
    rfl
  | label s =>
    obtain ⟨s', rfl⟩ := label_of_kind hkind.symm
    obtain rfl := Container.label.inj (Option.some.inj hcontainer)
    rfl
  | title s =>
    obtain ⟨s', rfl⟩ := title_of_kind hkind.symm
    obtain rfl := Container.title.inj (Option.some.inj hcontainer)
    rfl
  | greeter w s =>
    obtain ⟨w', s', rfl⟩ := greeter_of_kind hkind.symm
    obtain rfl := Container.greeter.inj (Option.some.inj hcontainer)
    obtain rfl : w = w' := hsalutation
    rfl
  | tally s =>
    obtain ⟨s', rfl⟩ := tally_of_kind hkind.symm
    obtain rfl := Container.tally.inj (Option.some.inj hcontainer)
    rfl
  | badge =>
    cases c' with
    | badge => rfl
    | _ => exact absurd hkind nofun
  | hollow =>
    cases c' with
    | hollow => rfl
    | _ => exact absurd hkind nofun

/-! ## 2. What carrying comes to -/

variable {prev next : Component} {state : Container}

/-- A component that keeps no state takes none. -/
theorem carryForward_of_stateless (h : next.hasState = false) :
    carryForward prev next = .ok none := by
  unfold carryForward
  rw [h]
  rfl

/-- From a component without a container nothing is carried. -/
theorem carryForward_of_bare (h : next.hasState = true) (hprev : prev.container? = none) :
    carryForward prev next = .error .missingContainer := by
  unfold carryForward
  rw [h, hprev]
  rfl

/-- A component takes no container of another kind. -/
theorem carryForward_of_kind_ne {own : Container} (hnext : next.container? = some own)
    (hprev : prev.container? = some state) (h : prev.kind ≠ next.kind) :
    carryForward prev next = .error (.containerMismatch (.container next.kind)) := by
  have hkind : state.kind ≠ next.kind := fun e => h ((kind_of_container? hprev).symm.trans e)
  unfold carryForward
  rw [hprev]
  cases next with
  | badge => exact absurd hnext nofun
  | hollow => exact absurd hnext nofun
  | _ => cases state <;> first | rfl | exact absurd rfl hkind

/-- A container holds no salutation. -/
theorem salutation_of_transfer {c : Component} (h : next.transfer state = .ok c) :
    c.salutation = next.salutation := by
  have hmap : ∀ {α : Type} {r : Except StateError α} {f : α → Component},
      r.map f = .ok c → ∃ a, c = f a := by
    intro α r f hr
    cases r with
    | error e => exact absurd hr nofun
    | ok a => exact ⟨a, (Except.ok.inj hr).symm⟩
  cases next with
  | badge =>
    obtain rfl := Except.ok.inj h
    rfl
  | hollow =>
    obtain rfl := Except.ok.inj h
    rfl
  | _ =>
    obtain ⟨s, rfl⟩ := hmap h
    rfl

/-- So none is carried. -/
theorem salutation_of_carryForward {c : Component} (h : carryForward prev next = .ok (some c)) :
    c.salutation = next.salutation := by
  unfold carryForward at h
  split at h
  · split at h
    · exact absurd h nofun
    · rename_i old _
      cases htransfer : next.transfer old with
      | error e =>
        rw [htransfer] at h
        exact absurd h nofun
      | ok c' =>
        rw [htransfer] at h
        obtain rfl := Option.some.inj (Except.ok.inj h)
        exact salutation_of_transfer htransfer
  · exact absurd h nofun

/-- **Between two of one kind all of the state is carried**, and nothing else. -/
theorem carryForward_of_kind_eq (hprev : prev.container? = some state)
    (hkind : prev.kind = next.kind) :
    ∃ c, carryForward prev next = .ok (some c) ∧ c.container? = prev.container? ∧
      c.kind = next.kind ∧ c.salutation = next.salutation := by
  obtain ⟨c, hcarry, hc, hckind⟩ := carryForward_eq hprev hkind.symm
  exact ⟨c, hcarry, hc.trans hprev.symm, hckind.trans hkind, salutation_of_carryForward hcarry⟩

/-! ## 3. Chains -/

/-- A next generation once state was carried to it, or what kept it from being carried. -/
def Component.renew (prev next : Component) : Except StateError Component :=
  (carryForward prev next).map (·.getD next)

/-- The last of a chain of generations, once state was carried along it. -/
def carryAlong (first : Component) (generations : List Component) : Except StateError Component :=
  generations.foldlM Component.renew first

/-- **A next generation of the same kind is renewed**, and is known then completely. -/
theorem renew_of_kind_eq (hprev : prev.kind ≠ .hollow) (h : next.kind = prev.kind) :
    ∃ c, prev.renew next = .ok c ∧ c.container? = prev.container? ∧ c.kind = next.kind ∧
      c.salutation = next.salutation := by
  cases hcontainer : prev.container? with
  | some state =>
    obtain ⟨c, hcarry, hc, hkind, hw⟩ := carryForward_of_kind_eq hcontainer h.symm
    refine ⟨c, ?_, hc.trans hcontainer, hkind, hw⟩
    unfold Component.renew
    rw [hcarry]
    rfl
  | none =>
    cases prev with
    | badge =>
      cases next with
      | badge => exact ⟨.badge, rfl, rfl, rfl, rfl⟩
      | _ => exact absurd h nofun
    | hollow => exact absurd rfl hprev
    | _ => exact absurd hcontainer nofun

/-- **A chain of generations can be cut short.** -/
theorem carryAlong_concat {first last : Component} (generations : List Component)
    (hfirst : first.kind ≠ .hollow) (h : ∀ g ∈ generations, g.kind = first.kind)
    (hlast : last.kind = first.kind) :
    carryAlong first (generations ++ [last]) = first.renew last := by
  induction generations generalizing first with
  | nil =>
    unfold carryAlong
    simp
  | cons g generations ih =>
    obtain ⟨hg, hrest⟩ := List.forall_mem_cons.mp h
    obtain ⟨c, hc, hcontainer, hkind, -⟩ := renew_of_kind_eq hfirst hg
    have hcfirst : c.kind = first.kind := hkind.trans hg
    have hchain : carryAlong first (g :: generations ++ [last])
        = carryAlong c (generations ++ [last]) := by
      unfold carryAlong
      rw [List.cons_append, List.foldlM_cons, hc]
      rfl
    rw [hchain, ih (hcfirst ▸ hfirst) (fun x hx => (hrest x hx).trans hcfirst.symm)
      (hlast.trans hcfirst.symm)]
    -- what is carried from the middle is what was carried to it
    obtain ⟨a, ha, hacontainer, hakind, haw⟩ :=
      renew_of_kind_eq (hcfirst ▸ hfirst) (hlast.trans hcfirst.symm)
    obtain ⟨b, hb, hbcontainer, hbkind, hbw⟩ := renew_of_kind_eq hfirst hlast
    rw [ha, hb, Component.eq_of_shown (hakind.trans hbkind.symm)
      ((hacontainer.trans hcontainer).trans hbcontainer.symm) (haw.trans hbw.symm)]

/-! ## 4. The law -/

/-- Putting back what is there changes nothing. -/
theorem Stage.put_self (s : Stage) (n : Nat) : s.put n (s.live n) = s := by
  unfold put live
  rw [Function.update_eq_self]

/-- What could not be carried leaves everything as it was. -/
theorem Stage.carry_eq_self {s : Stage} {prev next : Nat}
    (h : ∀ c, carryForward (s.components prev) (s.components next) ≠ .ok (some c)) :
    s.act (.carry prev next) = s := by
  have hsame : (s.components prev).carriedFrom (s.components next) = s.components next := by
    unfold Component.carriedFrom
    split
    · rename_i c hc
      exact absurd hc (h c)
    · rfl
  show s.put next ⟨(s.components prev).carriedFrom (s.components next), s.queues⟩ = s
  rw [hsame]
  exact s.put_self next

/-- What was carried is there. -/
theorem Stage.components_carry {s : Stage} {prev next : Nat} {c : Component}
    (h : carryForward (s.components prev) (s.components next) = .ok (some c)) :
    (s.act (.carry prev next)).components next = c := by
  have hput : (s.act (.carry prev next)).components next
      = (s.components prev).carriedFrom (s.components next) := s.components_put_self next _
  rw [hput, Component.carriedFrom, h]

/-- **State is carried whole or not at all**, between any two components of which none says that it
keeps state and has none to show.  A component that keeps no state takes none; from one that keeps
none, nothing is carried to one that does; and a component refuses the container of another kind,
naming its own.  In all three cases everything stays as it was.  Otherwise the next component gets the value of every cell, whatever it
held, and stays bound to its own salutation.  The component that state was carried from is not
changed by that, nor by anything that is done later to others.  Along a chain of generations of one
kind state is carried as from the first to the last. -/
theorem carry_whole_or_nothing (s : Stage) (prev next : Nat) (hne : prev ≠ next)
    (hprev : (s.components prev).kind ≠ .hollow) (hnext : (s.components next).kind ≠ .hollow) :
    let p := s.components prev
    let n := s.components next
    let after := s.act (.carry prev next)
    (n.hasState = false → carryForward p n = .ok none ∧ after = s) ∧
    (n.hasState = true → p.hasState = false →
      carryForward p n = .error .missingContainer ∧ after = s) ∧
    (n.hasState = true → p.hasState = true → p.kind ≠ n.kind →
      carryForward p n = .error (.containerMismatch (.container n.kind)) ∧ after = s) ∧
    (n.hasState = true → p.kind = n.kind → ∃ c, carryForward p n = .ok (some c) ∧
      after.components next = c ∧ c.container? = p.container? ∧ (∀ f, c.at? f = p.at? f) ∧
      c.kind = n.kind ∧ c.salutation = n.salutation) ∧
    (∀ deeds : List Deed, (∀ d ∈ deeds, d.target? ≠ some prev) →
      (after.doAll deeds).components prev = p) ∧
    ∀ (generations : List Component) (last : Component),
      (∀ g ∈ generations, g.kind = p.kind) → last.kind = p.kind →
      ∃ c, carryAlong p (generations ++ [last]) = .ok c ∧ p.renew last = .ok c := by
  intro p n after
  refine ⟨fun hn => ?_, fun hn hp => ?_, fun hn hp hkind => ?_, fun hn hkind => ?_,
    fun deeds hdeeds => ?_, fun generations last hgenerations hlast => ?_⟩
  · have hcarry : carryForward p n = .ok none := carryForward_of_stateless hn
    exact ⟨hcarry, Stage.carry_eq_self fun c h => absurd (hcarry.symm.trans h) nofun⟩
  · have hcarry := carryForward_of_bare hn (container?_eq_none hp)
    exact ⟨hcarry, Stage.carry_eq_self fun c h => absurd (hcarry.symm.trans h) nofun⟩
  · obtain ⟨own, hown⟩ := exists_container? hnext hn
    obtain ⟨state, hstate⟩ := exists_container? hprev hp
    have hcarry := carryForward_of_kind_ne hown hstate hkind
    exact ⟨hcarry, Stage.carry_eq_self fun c h => absurd (hcarry.symm.trans h) nofun⟩
  · obtain ⟨state, hstate⟩ := exists_container? hprev ((hasState_of_kind_eq hkind).trans hn)
    obtain ⟨c, hcarry, hc, hckind, hw⟩ := carryForward_of_kind_eq hstate hkind
    refine ⟨c, hcarry, Stage.components_carry hcarry, hc, fun f => ?_, hckind, hw⟩
    unfold Component.at?
    rw [hc]
  · exact (Stage.components_doAll hdeeds after).trans (s.components_put_of_ne hne _)
  · obtain ⟨c, hc, -⟩ := renew_of_kind_eq hprev hlast
    exact ⟨c, (carryAlong_concat generations hprev hgenerations hlast).trans hc, hc⟩

/-- A greeter that has greeted, and another one that was made after it. -/
def twoGreeters : Stage where
  components n := if n = 0 then .greeter "Hello" ⟨"Hello, Ada!"⟩ else .greeter "Good evening" ⟨""⟩
  contexts _ := .detached
  queues := .empty

/-- The greeting is carried, the salutation is not, and what becomes of the second greeter is
nothing to the first. -/
theorem greeting_of_twoGreeters :
    (twoGreeters.act (.carry 0 1)).components 1 = .greeter "Good evening" ⟨"Hello, Ada!"⟩ ∧
    (((twoGreeters.act (.carry 0 1)).doAll [.apply ⟨0, "door"⟩ 1, .create 1 .badge]).components 0
      = .greeter "Hello" ⟨"Hello, Ada!"⟩) := by
  obtain ⟨-, -, -, hcarried, hlater, -⟩ :=
    carry_whole_or_nothing twoGreeters 0 1 (by decide) (by decide) (by decide)
  obtain ⟨c, -, hafter, hcontainer, -, hkind, hsalutation⟩ := hcarried rfl rfl
  refine ⟨hafter.trans (Component.eq_of_shown hkind hcontainer hsalutation), ?_⟩
  exact hlater [.apply ⟨0, "door"⟩ 1, .create 1 .badge] (by decide)

end Carryover.State
