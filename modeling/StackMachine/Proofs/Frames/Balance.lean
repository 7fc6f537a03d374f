import StackMachine.Proofs.Frames.Move

/-!
# Frames are balanced

In the run of a new machine, the local base is always the sum of the frame sizes on the return
stack, because each of them was added by the call that left it there.  Everything else follows from
that: the local base cannot be negative, so a return cannot bring the stack top below the empty
stack, and a return that finds a return point can always move the local base back.

* `frameWords` — the sum of the frame sizes.
* `Machine.Grounded` — the bounds of the registers.
* `Machine.Balanced` — the sum, and where the return points come from.
* `Execution.Sound`, `Execution.step_sound` — what every step keeps, the faulting ones included.
* `registers_of_run` — what therefore holds in every run.

A fault may leave an orphaned return point, so after one the sum can be off, but not the bounds.
-/

namespace StackMachine

/-- The words of all frames below the running one, as the return points give them. -/
def frameWords : (returns : List ReturnPoint) → Nat
  | [] => 0
  | point :: rest => point.frame + frameWords rest

@[simp]
lemma frameWords_cons (point : ReturnPoint) (rest : List ReturnPoint) :
    frameWords (point :: rest) = point.frame + frameWords rest := rfl

namespace Machine

/-- **The bounds of the registers.**  The stack top of an empty stack is one below the origin. -/
structure Grounded (m : Machine) : Prop where
  gbr : m.registers.gbr = 0
  lbr : 0 ≤ m.registers.lbr
  str : -1 ≤ m.registers.str

/-- **The frames of a machine are balanced** when its local base is the sum of their sizes and every
return point was left by a call of the program. -/
structure Balanced (program : Program) (m : Machine) : Prop where
  lbr : m.registers.lbr = frameWords m.returns
  fits : Word.Fits m.registers.lbr
  calls : ∀ point ∈ m.returns,
    program.instructions[point.callSite]? = some (.call point.frame)

lemma grounded_initial (trace : Bool) : Grounded { initial with trace } :=
  ⟨rfl, Int.le_refl 0, Int.le_refl (-1)⟩

lemma balanced_initial (program : Program) (trace : Bool) :
    Balanced program { initial with trace } :=
  ⟨rfl, show Word.Fits 0 by decide, fun _ h => nomatch h⟩

variable {program : Program} {m t : Machine}

lemma Settled.grounded (h : Settled m t) (hm : Grounded m) : Grounded t where
  gbr := h.gbr.trans hm.gbr
  lbr := by
    rw [h.lbr]
    exact hm.lbr
  str := by
    have hfloor := h.floor
    rw [hm.gbr] at hfloor
    exact hfloor hm.lbr hm.str

lemma Settled.balanced (h : Settled m t) (hm : Balanced program m) : Balanced program t where
  lbr := by rw [h.lbr, h.returns, hm.lbr]
  fits := by
    rw [h.lbr]
    exact hm.fits
  calls := by
    rw [h.returns]
    exact hm.calls

/-- Taking the place to call from the stack leaves a stack, be it empty. -/
lemma Pointed.str_ge {frame : Nat} (h : Pointed frame m t) (hm : Grounded m) :
    -1 ≤ t.registers.str := by
  have htaken := h.taken
  rw [hm.gbr] at htaken
  rw [h.str]
  omega

lemma Opened.grounded {frame : Nat} (h : Opened frame m t) (hm : Grounded m) : Grounded t where
  gbr := h.gbr.trans hm.gbr
  lbr := by
    have hlbr := hm.lbr
    rw [h.lbr]
    omega
  str := h.str_ge hm

lemma Opened.balanced {frame : Nat} (h : Opened frame m t) (hm : Balanced program m)
    (fetched : program.instructions[m.registers.ip]? = some (.call frame)) :
    Balanced program t where
  lbr := by
    rw [h.lbr, h.returns, hm.lbr, frameWords_cons, Int.natCast_add, Int.add_comm]
  fits := by
    rw [h.lbr]
    exact h.fits
  calls := by
    rw [h.returns]
    intro point hpoint
    rcases List.mem_cons.mp hpoint with rfl | hrest
    · exact fetched
    · exact hm.calls point hrest

lemma Orphaned.grounded {frame : Nat} (h : Orphaned frame m t) (hm : Grounded m) :
    Grounded t where
  gbr := h.gbr.trans hm.gbr
  lbr := by
    rw [h.lbr]
    exact hm.lbr
  str := h.str_ge hm

/-- The results of a frame lie from its base on, so none of them lies below the origin. -/
lemma topAfter_ge (results : Nat) (hm : Grounded m) : -1 ≤ m.topAfter results := by
  have hlbr := hm.lbr
  have hstr := hm.str
  simp only [topAfter]
  split <;> omega

/-- A frame that is on the return stack is part of the sum, so it can be taken back. -/
lemma Balanced.frame_le {point : ReturnPoint} {rest : List ReturnPoint} (hm : Balanced program m)
    (h : m.returns = point :: rest) :
    m.registers.lbr - point.frame = frameWords rest ∧ (point.frame : Int) ≤ m.registers.lbr := by
  have hlbr := hm.lbr
  rw [h, frameWords_cons] at hlbr
  omega

lemma Closed.grounded {results : Nat} {point : ReturnPoint} (h : Closed results point m t)
    (hm : Grounded m) (hb : Balanced program m) : Grounded t where
  gbr := h.gbr.trans hm.gbr
  lbr := by
    have hframe := hb.frame_le h.returns
    rw [h.lbr]
    omega
  str := by
    rw [h.str]
    exact topAfter_ge results hm

lemma Closed.balanced {results : Nat} {point : ReturnPoint} (h : Closed results point m t)
    (hm : Balanced program m) : Balanced program t where
  lbr := h.lbr.trans (hm.frame_le h.returns).1
  fits := by
    have hframe := hm.frame_le h.returns
    have hfits := hm.fits
    rw [h.lbr]
    simp only [Word.Fits] at hfits ⊢
    omega
  calls point' hpoint' := by
    refine hm.calls point' ?_
    rw [h.returns]
    exact List.mem_cons_of_mem point hpoint'

/-- **A balanced machine can always take back its latest frame**, so no return takes its point in
vain. -/
lemma Unclosed.not_balanced {results : Nat} {point : ReturnPoint} (h : Unclosed results point m t) :
    ¬ Balanced program m := by
  intro hm
  have hframe := hm.frame_le h.returns
  have hfits := hm.fits
  have hmisfit := h.misfit
  simp only [Word.Fits] at hfits hmisfit
  omega

end Machine

namespace Execution

open Machine

variable {program : Program} {e : Execution}

/-- **What every step keeps.**  The bounds hold even after a fault. -/
structure Sound (program : Program) (e : Execution) : Prop where
  grounded : Grounded e.system.machine
  balanced : (∀ fault, e.outcome ≠ some (.faulted fault)) → Balanced program e.system.machine

lemma fresh_sound (program : Program) (trace : Bool) (console : Console) :
    Sound program (fresh program trace console) :=
  ⟨grounded_initial trace, fun _ => balanced_initial program trace⟩

/-- While a run goes on it has not faulted. -/
lemma Sound.running (h : Sound program e) (before : e.outcome = none) :
    Balanced program e.system.machine :=
  h.balanced fun _ hfault => nomatch before.symm.trans hfault

lemma step_sound (e : Execution) (h : Sound program e) : Sound program (e.step program) := by
  cases step_moves program e with
  | ended before same => rwa [same]
  | settled before plain settled =>
      exact ⟨settled.grounded h.grounded, fun _ => settled.balanced (h.running before)⟩
  | opened frame before fetched after opened =>
      exact ⟨opened.grounded h.grounded, fun _ => opened.balanced (h.running before) fetched⟩
  | orphaned frame before fetched after orphaned =>
      exact ⟨orphaned.grounded h.grounded, fun hfault => absurd after (hfault _)⟩
  | closed results point before fetched after resumed closed =>
      have hb := h.running before
      exact ⟨closed.grounded h.grounded hb, fun _ => closed.balanced hb⟩
  | unclosed results point before fetched after unclosed =>
      exact absurd (h.running before) unclosed.not_balanced

lemma run_sound (program : Program) (trace : Bool) (console : Console) (count : Nat) :
    Sound program (run program count (fresh program trace console)) :=
  run_induction (fresh_sound program trace console) (fun e h => step_sound e h) count

end Execution

/-- **The registers and the return stack of a run.**  Whatever the program, its input and its output
do, after every number of steps of a new machine the global base is zero, the local base is not
negative and the stack top is not below the empty stack, also when the run has ended in a fault.
As long as it has not, the local base is the sum of the frame sizes on the return stack, and every
return point on it is the place and the frame size of a call in the program. -/
theorem registers_of_run (program : Program) (trace : Bool) (console : Console) (count : Nat) :
    let e := Execution.run program count (Execution.fresh program trace console)
    let m := e.system.machine
    (m.registers.gbr = 0 ∧ 0 ≤ m.registers.lbr ∧ -1 ≤ m.registers.str) ∧
    ((∀ fault, e.outcome ≠ some (.faulted fault)) →
      m.registers.lbr = frameWords m.returns ∧
      ∀ point ∈ m.returns,
        program.instructions[point.callSite]? = some (.call point.frame)) := by
  intro e m
  have h := Execution.run_sound program trace console count
  refine ⟨⟨h.grounded.gbr, h.grounded.lbr, h.grounded.str⟩, fun hfault => ?_⟩
  have hb := h.balanced hfault
  exact ⟨hb.lbr, hb.calls⟩

end StackMachine
