/-
# Calls on a buffer

`Call` names what can be done to a buffer, and `Buffer.runAll` does one call after the other.

A call appends a text that depends on the level of the buffer and on nothing else of it
(`Call.text_run`, `Call.level_run`).  So what a row of calls appends can be told from the level at
which the row begins (`pieces`).

The level goes down to zero and no further.  `balance` is where it would be if it went below.  The
level is the balance, lifted by as much as the balance was ever below zero
(`exists_least_level_runAll`), for each call that would go below zero lifts it by one.  Well nested
calls never do, so they end where they began (`WellNested.level_runAll`).

`runAll_accounted` puts this together with the lines that calls write.
-/
import Mathlib.Data.Int.Order.Basic
import Mathlib.Data.List.Induction
import Mathlib.Order.Bounds.Basic
import Carryover.Proofs.Source.Rendered
import Carryover.Source.Buffer

namespace Carryover.Source

/-! ## 1. Calls -/

/-- What can be done to a buffer. -/
inductive Call where
  | line (text : String)
  | blank
  | docComment (text : String)
  | openBlock (header : String)
  | closeWith (closing : String)
  | close
  | indent
  | dedent
  | raw (source : String)
  deriving DecidableEq, Repr

namespace Call

/-- The buffer behind a call. -/
def run (b : Buffer) : Call → Buffer
  | line text => b.line text
  | blank => b.blank
  | docComment text => b.docComment text
  | openBlock header => b.openBlock header
  | closeWith closing => b.closeWith closing
  | close => b.close
  | indent => b.indent
  | dedent => b.dedent
  | raw source => b.raw source

/-- Does the call go one level in? -/
def goesIn : Call → Bool
  | openBlock _ | indent => true
  | _ => false

/-- Does the call go one level out? -/
def goesOut : Call → Bool
  | closeWith _ | close | dedent => true
  | _ => false

/-- The level behind a call at level `n`. -/
def levelAfter (n : Nat) (c : Call) : Nat :=
  if c.goesIn then n + 1 else if c.goesOut then n - 1 else n

/-- The level at which a call at level `n` writes.  A closing call goes out first; an opening call
goes in when it has written. -/
def levelAt (n : Nat) (c : Call) : Nat :=
  if c.goesOut then n - 1 else n

/-- The text that a call at level `n` appends. -/
def appended (n : Nat) : Call → String
  | line text => render n text
  | blank => "\n"
  | docComment text => render n (docText text)
  | openBlock header => render n (opening header)
  | closeWith closing => render (n - 1) closing
  | close => render (n - 1) "\x7d"
  | indent | dedent => ""
  | raw source => source

variable {c : Call} {n : Nat}

/-- No call goes both ways. -/
theorem goesIn_of_goesOut (h : c.goesOut = true) : c.goesIn = false := by
  cases c with
  | openBlock => exact absurd h nofun
  | indent => exact absurd h nofun
  | _ => rfl

theorem levelAfter_of_goesIn (h : c.goesIn = true) : c.levelAfter n = n + 1 :=
  if_pos h

theorem levelAfter_of_goesOut (h : c.goesOut = true) : c.levelAfter n = n - 1 := by
  simp [levelAfter, goesIn_of_goesOut h, h]

theorem levelAfter_of_flat (hin : c.goesIn = false) (hout : c.goesOut = false) :
    c.levelAfter n = n := by
  simp [levelAfter, hin, hout]

/-- **A call appends its text**, and changes nothing in front of it. -/
theorem text_run (b : Buffer) (c : Call) : (c.run b).text = b.text ++ c.appended b.level := by
  cases c <;> simp [run, appended, Buffer.line, Buffer.blank, Buffer.docComment, Buffer.openBlock,
    Buffer.closeWith, Buffer.close, Buffer.indent, Buffer.dedent, Buffer.raw]

/-- What a call does to the level. -/
theorem level_run (b : Buffer) (c : Call) : (c.run b).level = c.levelAfter b.level := by
  cases c <;> rfl

end Call

/-! ## 2. Rows of calls -/

/-- The buffer behind calls. -/
def Buffer.runAll (b : Buffer) (calls : List Call) : Buffer :=
  calls.foldl Call.run b

/-- What each of the calls appends, the first of them at level `n`. -/
def pieces (n : Nat) : List Call → List String
  | [] => []
  | c :: calls => c.appended n :: pieces (c.levelAfter n) calls

variable {b : Buffer} {c : Call} {calls : List Call}

theorem runAll_append (b : Buffer) (before after : List Call) :
    b.runAll (before ++ after) = (b.runAll before).runAll after :=
  List.foldl_append

theorem runAll_concat (b : Buffer) (calls : List Call) (c : Call) :
    b.runAll (calls ++ [c]) = c.run (b.runAll calls) :=
  runAll_append b calls [c]

/-- **Calls append their pieces**, one behind the other. -/
theorem text_runAll (b : Buffer) (calls : List Call) :
    (b.runAll calls).text = b.text ++ String.join (pieces b.level calls) := by
  induction calls generalizing b with
  | nil => exact String.append_empty.symm
  | cons c calls ih =>
    have hrest : (b.runAll (c :: calls)).text
        = (c.run b).text ++ String.join (pieces (c.run b).level calls) := ih (c.run b)
    rw [hrest, Call.text_run, Call.level_run, String.append_assoc, ← String.join_cons]
    rfl

/-! ## 3. The level -/

/-- The calls that go in, less those that go out, counted from `n` on. -/
def balance (n : Int) (calls : List Call) : Int :=
  n + calls.countP Call.goesIn - calls.countP Call.goesOut

/-- The balances on the way, the first and the last included. -/
def balances (n : Int) (calls : List Call) : Set Int :=
  {v | ∃ before, before <+: calls ∧ balance n before = v}

theorem balance_concat (n : Int) (calls : List Call) (c : Call) :
    balance n (calls ++ [c]) = balance n calls + c.goesIn.toNat - c.goesOut.toNat := by
  unfold balance
  rw [List.countP_append, List.countP_append, List.countP_singleton, List.countP_singleton]
  cases c.goesIn <;> cases c.goesOut <;> simp <;> omega

theorem balances_nil (n : Int) : balances n [] = {n} := by
  ext v
  simp [balances, balance, eq_comm]

/-- One call adds one balance. -/
theorem balances_concat (n : Int) (calls : List Call) (c : Call) :
    balances n (calls ++ [c]) = insert (balance n (calls ++ [c])) (balances n calls) := by
  ext v
  constructor
  · rintro ⟨before, hbefore, rfl⟩
    rcases List.prefix_concat_iff.mp hbefore with rfl | hbefore
    · exact .inl rfl
    · exact .inr ⟨before, hbefore, rfl⟩
  · rintro (rfl | ⟨before, hbefore, rfl⟩)
    · exact ⟨calls ++ [c], List.prefix_rfl, rfl⟩
    · exact ⟨before, hbefore.trans (List.prefix_append _ _), rfl⟩

/-- **The level is the balance, lifted by as much as the balance was ever below zero.** -/
theorem exists_least_level_runAll (b : Buffer) (calls : List Call) :
    ∃ least, IsLeast (balances b.level calls) least ∧
      ((b.runAll calls).level : Int) = balance b.level calls - min 0 least := by
  -- The last call is split off, because the least balance is about what was before it.
  induction calls using List.reverseRecOn with
  | nil =>
    refine ⟨b.level, ?_, ?_⟩
    · rw [balances_nil]
      exact isLeast_singleton
    · simp [Buffer.runAll, balance]
  | append_singleton calls c ih =>
    obtain ⟨least, hleast, hlevel⟩ := ih
    have hle : least ≤ balance b.level calls := hleast.2 ⟨calls, List.prefix_rfl, rfl⟩
    refine ⟨min (balance b.level (calls ++ [c])) least, ?_, ?_⟩
    · rw [balances_concat]
      exact hleast.insert _
    · rw [runAll_concat, Call.level_run, balance_concat]
      cases hout : c.goesOut with
      | true =>
        rw [Call.levelAfter_of_goesOut hout, Call.goesIn_of_goesOut hout, Bool.toNat_true,
          Bool.toNat_false]
        omega
      | false =>
        cases hin : c.goesIn with
        | true =>
          rw [Call.levelAfter_of_goesIn hin, Bool.toNat_true, Bool.toNat_false]
          omega
        | false =>
          rw [Call.levelAfter_of_flat hin hout, Bool.toNat_false]
          omega

/-- At the margin closing calls change no level. -/
theorem level_runAll_of_goesOut {surplus : List Call} (hlevel : b.level = 0)
    (hout : ∀ c ∈ surplus, c.goesOut = true) : (b.runAll surplus).level = 0 := by
  induction surplus generalizing b with
  | nil => exact hlevel
  | cons c surplus ih =>
    obtain ⟨hc, hsurplus⟩ := List.forall_mem_cons.mp hout
    have hfirst : (c.run b).level = 0 := by
      rw [Call.level_run, hlevel, Call.levelAfter_of_goesOut hc]
    exact ih hfirst hsurplus

/-- Two buffers at one level go on alike. -/
theorem level_runAll_congr {b b' : Buffer} (h : b.level = b'.level) (calls : List Call) :
    (b.runAll calls).level = (b'.runAll calls).level := by
  induction calls generalizing b b' with
  | nil => exact h
  | cons c calls ih =>
    have hfirst : (c.run b).level = (c.run b').level := by
      rw [Call.level_run, Call.level_run, h]
    exact ih hfirst

/-! ## 4. Nesting -/

/-- Whatever goes in comes out again further behind, and nothing else comes out. -/
inductive WellNested : List Call → Prop where
  | nil : WellNested []
  | flat {c : Call} {rest : List Call} (hin : c.goesIn = false) (hout : c.goesOut = false)
      (behind : WellNested rest) : WellNested (c :: rest)
  | block {opens closes : Call} {body rest : List Call} (hin : opens.goesIn = true)
      (hout : closes.goesOut = true) (inner : WellNested body) (behind : WellNested rest) :
      WellNested (opens :: body ++ closes :: rest)

/-- **Well nested calls end at the level at which they began.** -/
theorem WellNested.level_runAll (h : WellNested calls) (b : Buffer) :
    (b.runAll calls).level = b.level := by
  induction h generalizing b with
  | nil => rfl
  | @flat c rest hin hout _ ih =>
    have hstay : (c.run b).level = b.level := by
      rw [Call.level_run, Call.levelAfter_of_flat hin hout]
    exact (ih (c.run b)).trans hstay
  | @block opens closes body rest hin hout _ _ ihbody ihrest =>
    have hinside : ((opens.run b).runAll body).level = b.level + 1 := by
      rw [ihbody, Call.level_run, Call.levelAfter_of_goesIn hin]
    have hback : (closes.run ((opens.run b).runAll body)).level = b.level := by
      rw [Call.level_run, hinside, Call.levelAfter_of_goesOut hout, Nat.add_sub_cancel]
    rw [runAll_append]
    exact (ihrest _).trans hback

/-- A header is a row of calls. -/
theorem withHeader_eq_runAll (header : String) :
    Buffer.withHeader header = Buffer.empty.runAll
      ((Text.lines header.toList).map (fun l => .line (Buffer.commentLine l)) ++ [.blank]) := by
  rw [runAll_concat, Buffer.runAll, List.foldl_map]
  rfl

/-- Behind a header the buffer is at the margin. -/
theorem level_withHeader (header : String) : (Buffer.withHeader header).level = 0 := by
  have hflat : ∀ ls : List (List Char),
      WellNested (ls.map (fun l => .line (Buffer.commentLine l)) ++ [.blank]) := by
    intro ls
    induction ls with
    | nil => exact .flat rfl rfl .nil
    | cons l ls ih => exact .flat rfl rfl ih
  rw [withHeader_eq_runAll]
  exact (hflat _).level_runAll Buffer.empty

/-! ## 5. Lines -/

/-- The text that a call is given, and the line that it makes of it. -/
inductive Call.Writes : Call → String → String → Prop where
  | line (text : String) : Writes (.line text) text text
  | docComment (text : String) : Writes (.docComment text) text ("/// " ++ text)
  | openBlock (header : String) : Writes (.openBlock header) header (header ++ " \x7b")
  | closeWith (closing : String) : Writes (.closeWith closing) closing closing
  | close : Writes .close "\x7d" "\x7d"

/-- The piece is one line, which stands four spaces in for each level. -/
structure IsLineAt (level : Nat) (line piece : String) : Prop where
  toList_eq : piece.toList = List.replicate (4 * level) ' ' ++ line.toList ++ ['\n']
  no_break : '\n' ∉ line.toList

/-- What is rendered is one line. -/
theorem isLineAt_render {line : String} (hne : line ≠ "") (hbreak : '\n' ∉ line.toList)
    (level : Nat) : IsLineAt level line (render level line) := by
  refine ⟨?_, hbreak⟩
  rw [toList_render]
  unfold shown
  rw [if_neg hne]

/-- **A call that is given a text without breaks appends one line.** -/
theorem Call.Writes.isLineAt {text line : String} (h : c.Writes text line) (hne : text ≠ "")
    (hbreak : '\n' ∉ text.toList) (n : Nat) : IsLineAt (c.levelAt n) line (c.appended n) := by
  cases h with
  | line => exact isLineAt_render hne hbreak n
  | docComment =>
    have hdoc : docText text = "/// " ++ text := if_neg (by simpa using hne)
    have hline : IsLineAt n ("/// " ++ text) (render n ("/// " ++ text)) :=
      isLineAt_render (by simp) (by simp [hbreak]) n
    rwa [← hdoc] at hline ⊢
  | openBlock => exact isLineAt_render (by simp) (by simp [hbreak]) n
  | closeWith => exact isLineAt_render hne hbreak (n - 1)
  | close => exact isLineAt_render hne hbreak (n - 1)

/-! ## 6. The account -/

/-- What calls make of a buffer. -/
structure Buffer.Accounted (b : Buffer) (calls : List Call) : Prop where
  /-- The text only grows, by what each call appends. -/
  text_eq : (b.runAll calls).text = b.text ++ String.join (pieces b.level calls)
  /-- Each call that is given a text without breaks appends one line. -/
  line : ∀ before c after text line, calls = before ++ c :: after → c.Writes text line →
    text ≠ "" → '\n' ∉ text.toList → ∃ piece,
      (b.runAll (before ++ [c])).text = (b.runAll before).text ++ piece ∧
        IsLineAt (c.levelAt (b.runAll before).level) line piece
  /-- Source is appended as it is. -/
  raw : ∀ before source after, calls = before ++ .raw source :: after →
    (b.runAll (before ++ [.raw source])).text = (b.runAll before).text ++ source
  /-- The level is the balance, lifted by as much as the balance was ever below zero. -/
  level_eq : ∃ least, IsLeast (balances b.level calls) least ∧
    ((b.runAll calls).level : Int) = balance b.level calls - min 0 least
  /-- Well nested calls end at the level at which they began. -/
  nested : WellNested calls → (b.runAll calls).level = b.level
  /-- Calls that would go out at the margin do not count for what follows. -/
  surplus : ∀ before surplus after, calls = before ++ surplus ++ after →
    (b.runAll before).level = 0 → (∀ c ∈ surplus, c.goesOut = true) →
      pieces (b.runAll (before ++ surplus)).level after = pieces (b.runAll before).level after ∧
        (b.runAll calls).level = (b.runAll (before ++ after)).level

/-- **Whatever is called, the text of a buffer only grows, and its level follows the balance of the
calls.**  Buffers begin at the level that a fragment is given, or at the margin behind a header. -/
theorem runAll_accounted :
    (∀ (b : Buffer) (calls : List Call), b.Accounted calls) ∧
      (∀ n, (Buffer.fragment n).level = n) ∧
      ∀ header, (Buffer.withHeader header).level = 0 := by
  refine ⟨fun b calls => ?_, fun _ => rfl, level_withHeader⟩
  have hstep : ∀ before c, (b.runAll (before ++ [c])).text
      = (b.runAll before).text ++ c.appended (b.runAll before).level := by
    intro before c
    rw [runAll_concat, Call.text_run]
  constructor
  case text_eq => exact text_runAll b calls
  case line =>
    intro before c _ text line _ hwrites hne hbreak
    exact ⟨_, hstep before c, hwrites.isLineAt hne hbreak _⟩
  case raw =>
    intro before source _ _
    exact hstep before (.raw source)
  case level_eq => exact exists_least_level_runAll b calls
  case nested =>
    intro hnested
    exact hnested.level_runAll b
  case surplus =>
    intro before surplus after hcalls hlevel hout
    have hmargin : (b.runAll (before ++ surplus)).level = (b.runAll before).level := by
      rw [runAll_append, level_runAll_of_goesOut hlevel hout, hlevel]
    refine ⟨by rw [hmargin], ?_⟩
    rw [hcalls, runAll_append, runAll_append b before after]
    exact level_runAll_congr hmargin after

/-- A brace too many does not move the block behind it. -/
example : (Buffer.empty.runAll [.close, .openBlock "fn f()", .line "g();", .close]).text
    = "\x7d\nfn f() \x7b\n    g();\n\x7d\n" := by decide

end Carryover.Source
