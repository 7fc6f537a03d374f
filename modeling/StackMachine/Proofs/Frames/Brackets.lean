import StackMachine.Proofs.Frames.Balance

/-!
# Calls and returns are bracketed

A return does not name the call that it belongs to; it takes whatever return point comes first.
That it is the point of the matching call is a matter of the return stack alone: as long as the
stack is higher than it was before the call, the point of the call is still on it, below those of
the calls made since.

* `Execution.step_inside` — what one step does to the point of a call that is under way.
* `Execution.run_inside` — the point stays for as long as the return stack is higher.
* `call_return_bracketed` — the step that brings the return stack down again is a return to behind
  the call, and the frame of the caller is back.

The local base comes back because it is the sum of the frames on the return stack, which are the
same as before the call.
-/

namespace StackMachine

namespace Execution

open Machine

variable {program : Program} {e : Execution} {point : ReturnPoint} {rest : List ReturnPoint}

/-- **A return from a call that is under way.**  The step takes the return point of that call and no
other. -/
structure Returned (program : Program) (point : ReturnPoint) (e e' : Execution) (results : Nat) :
    Prop where
  fetched : e.fetch? program = some (.ret results)
  after : e'.outcome = none
  resumed : e'.system.machine.registers.ip = point.callSite + 1
  closed : Closed results point e.system.machine e'.system.machine

/-- A successful call has opened its frame. -/
lemma opened_of_call {frame : Nat} (fetched : e.fetch? program = some (.call frame))
    (after : (e.step program).outcome = none) :
    Opened frame e.system.machine (e.step program).system.machine := by
  cases step_moves program e with
  | ended before same =>
      rw [same] at after
      exact absurd after before
  | settled before plain settled => exact absurd fetched (plain after frame)
  | opened frame' before fetched' after' opened =>
      obtain rfl : frame' = frame := by
        rw [fetched] at fetched'
        exact (Instruction.call.inj (Option.some.inj fetched')).symm
      exact opened
  | orphaned _ _ _ faulted _ => exact nomatch after.symm.trans faulted
  | closed results _ _ fetched' _ _ _ => exact nomatch fetched.symm.trans fetched'
  | unclosed results _ _ _ faulted _ => exact nomatch after.symm.trans faulted

/-- **One step of a call that is under way.**  Its point stays on the return stack, or the step
returns from it. -/
lemma step_inside (h : Sound program e) (inside : point :: rest <:+ e.system.machine.returns) :
    point :: rest <:+ (e.step program).system.machine.returns ∨
    (∃ results, Returned program point e (e.step program) results) ∧
      (e.step program).system.machine.returns = rest := by
  cases step_moves program e with
  | ended before same =>
      rw [same]
      exact .inl inside
  | settled before plain settled =>
      rw [settled.returns]
      exact .inl inside
  | opened frame before fetched after opened =>
      rw [opened.returns]
      exact .inl (inside.trans (List.suffix_cons _ _))
  | orphaned frame before fetched after orphaned =>
      rw [orphaned.returns]
      exact .inl (inside.trans (List.suffix_cons _ _))
  | closed results latest before fetched after resumed closed =>
      rw [closed.returns] at inside
      rcases List.suffix_cons_iff.mp inside with own | inner
      · obtain ⟨rfl, hrest⟩ := List.cons.inj own
        exact .inr ⟨⟨results, fetched, after, resumed, closed⟩, hrest.symm⟩
      · exact .inl inner
  | unclosed results latest before fetched after unclosed =>
      exact absurd (h.running before) unclosed.not_balanced

/-- **The point of a call stays** for as long as the return stack is higher than before the call. -/
lemma run_inside {start : Execution} (sound : ∀ i, Sound program (run program i start))
    {first : Nat}
    (inside : point :: rest <:+ (run program first start).system.machine.returns) {last : Nat}
    (later : first ≤ last)
    (tall : ∀ i, first ≤ i → i < last →
      rest.length < (run program (i + 1) start).system.machine.returns.length) :
    point :: rest <:+ (run program last start).system.machine.returns := by
  induction later with
  | refl => exact inside
  | @step last later ih =>
      have inside := ih fun i hi hlast => tall i hi (Nat.lt_succ_of_lt hlast)
      have higher := tall last later (by omega)
      rw [run_succ] at higher ⊢
      rcases step_inside (sound last) inside with stays | ⟨-, left⟩
      · exact stays
      · rw [left] at higher
        exact absurd higher (Nat.lt_irrefl _)

end Execution

open Execution in
/-- **Calls and returns are bracketed.**  Let a call succeed in the run of a new machine, and let
step `j` be the first step after it that leaves the return stack no higher than it was before the
call.  Then this step is a successful return, which goes on behind the call with the return stack
and the local base of the caller.  The results lie where the callee's frame began, if the callee
left as many words; otherwise the stack top stays. -/
theorem call_return_bracketed (program : Program) (trace : Bool) (console : Console)
    (frame k j : Nat) :
    let run := fun i => Execution.run program i (Execution.fresh program trace console)
    let m := fun i => (run i).system.machine
    (run k).fetch? program = some (.call frame) → (run (k + 1)).outcome = none → k < j →
    (∀ i, k < i → i < j → (m k).returns.length < (m (i + 1)).returns.length) →
    (m (j + 1)).returns.length ≤ (m k).returns.length →
    ∃ results : Nat, (run j).fetch? program = some (.ret results) ∧ (run (j + 1)).outcome = none ∧
      (m (j + 1)).returns = (m k).returns ∧
      (m (j + 1)).registers.lbr = (m k).registers.lbr ∧
      (m (j + 1)).registers.ip = (m k).registers.ip + 1 ∧
      (results ≤ (m j).registers.str - (m j).registers.lbr + 1 →
        (m (j + 1)).registers.str = (m k).registers.lbr + frame - 1 + results) ∧
      (¬ results ≤ (m j).registers.str - (m j).registers.lbr + 1 →
        (m (j + 1)).registers.str = (m j).registers.str) := by
  intro run m called entered later tall short
  have sound : ∀ i, Sound program (run i) := run_sound program trace console
  have next : ∀ i, run (i + 1) = (run i).step program := fun i => run_succ i _
  have opened : Machine.Opened frame (m k) (m (k + 1)) := by
    simp only [m, next k] at entered ⊢
    exact opened_of_call called entered
  -- The point of the call is on the stack right after the call, and it is still there at step `j`.
  have entering : ⟨(m k).registers.ip, frame⟩ :: (m k).returns <:+ (m (k + 1)).returns := by
    simp only [opened.returns, List.suffix_rfl]
  have inside : ⟨(m k).registers.ip, frame⟩ :: (m k).returns <:+ (m j).returns :=
    run_inside sound entering later tall
  rcases step_inside (sound j) inside with stays | ⟨⟨results, left⟩, hreturns⟩
  · rw [← next] at stays
    have higher := stays.length_le
    rw [List.length_cons] at higher
    exact absurd (Nat.le_trans higher short) (by omega)
  rw [← next] at left hreturns
  -- Either local base is the sum of the frames on its return stack.
  have caller := (sound k).running (running_of_run (Nat.le_succ k) entered)
  have callee := (sound j).running (running_of_run (Nat.le_succ j) left.after)
  have hreturn := left.closed.returns
  rw [hreturns] at hreturn
  have hframe := (callee.frame_le hreturn).1
  have hlbr : (m (j + 1)).registers.lbr = (m k).registers.lbr := by
    rw [left.closed.lbr, hframe]
    exact caller.lbr.symm
  have hbase : (m j).registers.lbr = (m k).registers.lbr + frame := by
    rw [← hlbr, left.closed.lbr]
    exact (Int.sub_add_cancel _ _).symm
  refine ⟨results, left.fetched, left.after, hreturns, hlbr, left.resumed, ?_, ?_⟩
  · intro deep
    rw [left.closed.str, Machine.topAfter_of_le deep, ← hbase]
  · intro shallow
    rw [left.closed.str, Machine.topAfter_of_not_le shallow]

/-- A routine that calls another one and returns its own result. -/
def nestedCalls : Program where
  instructions := #[.literal 5, .literal 4, .call 1, .halt, .literal 8, .literal 9, .literal 9,
    .call 1, .ret 1, .ret 0]
  labels := ∅

open Execution in
/-- The outer call is step 2, and the return to it is step 8, after the inner call has returned. -/
theorem call_return_bracketed_nested :
    let run := fun i => Execution.run nestedCalls i (fresh nestedCalls false (Console.ofInput []))
    let m := fun i => (run i).system.machine
    ∃ results : Nat, (run 8).fetch? nestedCalls = some (.ret results) ∧ (run 9).outcome = none ∧
      (m 9).returns = (m 2).returns ∧
      (m 9).registers.lbr = (m 2).registers.lbr ∧
      (m 9).registers.ip = (m 2).registers.ip + 1 ∧
      (results ≤ (m 8).registers.str - (m 8).registers.lbr + 1 →
        (m 9).registers.str = (m 2).registers.lbr + (1 : Nat) - 1 + results) ∧
      (¬ results ≤ (m 8).registers.str - (m 8).registers.lbr + 1 →
        (m 9).registers.str = (m 8).registers.str) := by
  intro run m
  have tall : ∀ i < 8, 2 < i → (m 2).returns.length < (m (i + 1)).returns.length := by
    decide +kernel
  exact call_return_bracketed nestedCalls false (Console.ofInput []) 1 2 8 (by decide +kernel)
    (by decide +kernel) (by decide) (fun i hi hj => tall i hj hi) (by decide +kernel)

end StackMachine
