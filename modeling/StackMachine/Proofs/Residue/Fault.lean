import StackMachine.Proofs.Residue.Basic

/-!
# The state that a fault leaves

An instruction that cannot be carried out may have done a part of its work before it finds out: it
has taken operands, left a return point or moved the results of a frame.  This is all that is left
of it, and it is the same for all instructions but the two that work on frames.

* `Machine.Remains`, with `Instruction.perform_remains` — what a failing instruction leaves.
* `Execution.step_remains` — what a step leaves that faults.
* `state_of_fault` — the fault and the state it leaves, in every run.
-/

namespace StackMachine

namespace Machine

/-- **What a failing instruction leaves.**  A return that finds no return point has dropped all but
its results by then. -/
inductive Remains (ins : Instruction) (m : Machine) (e : MachineError) (t : Machine) : Prop where
  | residue (residue : Residue ins m e t)
      (other : ∀ results, ins = .ret results → e ≠ .returnStackUnderflow)
  | unreturned (results : Nat) (ret : ins = .ret results) (underflow : e = .returnStackUnderflow)
      (none : m.returns = []) (collapsed : Collapsed results m t)

/-! ## Without a return -/

namespace Residue

variable {ins : Instruction} {m t : Machine} {e : MachineError} (h : Residue ins m e t)
include h

lemma registers : t.registers = { m.registers with str := t.registers.str } := by
  cases h with
  | drained plain drained => exact drained.registers
  | orphaned frame call overflow u drained after =>
      subst after
      exact drained.registers

lemma trace : t.trace = m.trace := by
  cases h with
  | drained plain drained => exact drained.trace
  | orphaned frame call overflow u drained after =>
      subst after
      exact drained.trace

lemma stack : t.stack <+: m.stack := by
  cases h with
  | drained plain drained => exact drained.stack
  | orphaned frame call overflow u drained after =>
      subst after
      exact drained.stack

lemma read (place : Nat) :
    t.memory.read place =
      if t.registers.str < place ∧ (place : Int) ≤ m.registers.str then Word.unset
      else m.memory.read place := by
  cases h with
  | drained plain drained => exact drained.read place
  | orphaned frame call overflow u drained after =>
      subst after
      exact drained.read place

lemma returns_of_call {frame : Nat} (call : ins = .call frame)
    (overflow : e = .arithmeticOverflow) : t.returns = ⟨m.registers.ip, frame⟩ :: m.returns := by
  cases h with
  | drained plain drained => exact absurd overflow (plain frame call)
  | orphaned frame' call' overflow u drained after =>
      obtain rfl : frame = frame' := Instruction.call.inj (call.symm.trans call')
      rw [after]

lemma returns_of_plain (plain : ∀ frame, ins = .call frame → e ≠ .arithmeticOverflow) :
    t.returns = m.returns := by
  cases h with
  | drained plain drained => exact drained.returns
  | orphaned frame call overflow u drained after => exact absurd overflow (plain frame call)

end Residue

/-! ## Returns -/

namespace Collapsed

variable {results : Nat} {m t : Machine} (h : Collapsed results m t)
include h

lemma registers : t.registers = { m.registers with str := t.registers.str } := by
  cases h with
  | moved memory more after cells => rw [after]
  | kept none after => rw [after]

lemma trace : t.trace = m.trace := by
  cases h with
  | moved memory more after cells => rw [after]
  | kept none after => rw [after]

lemma returns : t.returns = m.returns := by
  cases h with
  | moved memory more after cells => rw [after]
  | kept none after => rw [after]

/-- At the origin, the frame is the whole stack, and its results are the last words of it. -/
lemma stack (lbr : m.registers.lbr = 0) (floor : -1 ≤ m.registers.str) :
    t.stack = m.stack.drop (m.stack.length - results) := by
  have length : m.stack.length = (m.registers.str + 1).toNat := Memory.length_snapshot _ _
  cases h with
  | kept none after =>
      simp only [surplus, lbr] at none
      rw [after, length, Nat.sub_eq_zero_of_le (by omega), List.drop_zero]
  | moved memory more after cells =>
      simp only [surplus, lbr] at more cells
      have length' : t.stack.length = results := by
        subst after
        show (memory.snapshot (m.registers.lbr - 1 + results)).length = results
        rw [Memory.length_snapshot]
        omega
      refine List.ext_getElem (by rw [List.length_drop]; omega) fun i hi hi' => ?_
      subst after
      show (memory.snapshot _)[i] = _
      rw [List.getElem_drop]
      refine (Memory.getElem_snapshot _).trans (Eq.trans ?_ (Memory.getElem_snapshot _).symm)
      rw [cells i, if_pos (by omega)]
      congr 1
      omega

end Collapsed

/-- **What a failing return leaves.**  A frame that was opened can always be closed. -/
lemma leaveRoutine_remains {program : Program} {m : Machine} (results : Nat) (h : Grounded m)
    (balanced : Balanced program m) (word : Word.Fits m.registers.str) :
    Ensures (leaveRoutine results) m (fun _ _ => True)
      (fun e t => Remains (.ret results) m e t) := by
  have overflow : Remains (.ret results) m .arithmeticOverflow m :=
    Remains.residue (Residue.drained nofun (Drained.refl m)) (fun _ _ => nofun)
  refine Ensures.bind (collapseFrame_ensures results h) ?_ ?_
  · rintro e t ⟨-, unchanged⟩
    obtain ⟨rfl, rfl⟩ := unchanged word
    exact overflow
  intro _ t collapsed
  refine Ensures.bind (popReturn_ensures t) ?_ ?_
  · rintro e u ⟨none, rfl, rfl⟩
    exact Remains.unreturned results rfl rfl (collapsed.returns.symm.trans none) collapsed
  rintro point u ⟨rest, returns, rfl⟩
  refine Ensures.bind (closeFrame_ensures point.frame _) ?_ (fun _ _ _ => Ensures.pure trivial)
  rintro e v ⟨-, misfit, -⟩
  have frame := balanced.frame_le (collapsed.returns.symm.trans returns)
  have fits := balanced.fits
  have lbr : t.registers.lbr = m.registers.lbr := by rw [collapsed.registers]
  simp only [lbr, Word.Fits] at fits misfit
  omega

end Machine

/-! ## Instructions and steps -/

section Steps

open Machine

variable {program : Program} {origin : Program}

/-- **What a failing instruction leaves at the console.** -/
theorem Instruction.perform_remains {s : System} (ins : Instruction) (h : Grounded s.machine)
    (balanced : Balanced origin s.machine) (word : Word.Fits s.machine.registers.str) :
    Ensures (ins.perform program) s (fun _ _ => True)
      (fun e t => Remains ins s.machine e t.machine) := by
  by_cases ret : ∃ results, ins = .ret results
  · obtain ⟨results, rfl⟩ := ret
    have returned : Ensures (execute program (.ret results)) s.machine (fun _ _ => True)
        (fun e t => Remains (.ret results) s.machine e t) :=
      leaveRoutine_remains results h balanced word
    refine Instruction.perform_ensures rfl ?_ returned
    exact Remains.residue (Residue.drained nofun (Drained.refl _)) (fun _ _ => nofun)
  · have hret : ∀ results, ins ≠ .ret results := fun results hr => ret ⟨results, hr⟩
    refine (ins.perform_residue h hret).mono (fun _ _ _ => trivial) ?_
    intro e t residue
    exact Remains.residue residue (fun results hr => absurd hr (hret results))

/-- An instruction that halts leaves the machine as it is. -/
lemma Instruction.perform_of_halt {s t : System} {ins : Instruction}
    (halts : ins.perform program s = .ok .halt t) : ins = .halt ∧ t.machine = s.machine := by
  obtain rfl := ((ins.perform_halts program s).ok halts).mp rfl
  have same : Ensures (execute program .halt) s.machine (fun _ u => u = s.machine)
      (fun _ _ => True) := Ensures.pure rfl
  exact ⟨rfl, (Instruction.perform_ensures rfl trivial same).ok halts⟩

/-- **What a step leaves that faults.** -/
lemma Execution.step_remains {e : Execution} {ins : Instruction} {fault : Fault}
    (h : Grounded e.system.machine) (balanced : Balanced origin e.system.machine)
    (word : Word.Fits e.system.machine.registers.str) (before : e.outcome = none)
    (fetched : e.fetch? program = some ins)
    (after : (e.step program).outcome = some (.faulted fault)) :
    fault.index = e.system.machine.registers.ip ∧ fault.instruction = ins.text ∧
      Remains ins e.system.machine fault.error (e.step program).system.machine := by
  cases performed : ins.perform program e.system with
  | error error t =>
      rw [step_of_error before fetched performed, outcome_fail] at after
      obtain rfl := Outcome.faulted.inj (Option.some.inj after)
      rw [step_of_error before fetched performed, machine_fail]
      exact ⟨rfl, rfl, (ins.perform_remains h balanced word).error performed⟩
  | ok flow t =>
      by_cases halts : flow = .halt
      · subst halts
        obtain ⟨rfl, same⟩ := Instruction.perform_of_halt performed
        rw [step_of_halt before fetched performed] at after ⊢
        rw [machine_finish]
        rcases outcome_finish { e with system := t } e.system.machine.registers.ip .halt with
          halted | ⟨error, faulted⟩
        · exact nomatch halted.symm.trans after
        · obtain rfl := Outcome.faulted.inj (Option.some.inj (faulted.symm.trans after))
          rw [same]
          exact ⟨rfl, rfl, Remains.residue (Residue.drained nofun (Drained.refl _)) nofun⟩
      · rw [step_of_flow before fetched performed halts, outcome_follow] at after
        exact nomatch before.symm.trans after

end Steps

/-- **The state that a fault leaves.**  Take any state of a run of a new machine that has not ended,
with a stack top that is a word, and a step from there that faults.  The fault names the place of
the instruction and its text.  The registers are as they were but for the stack top, and so is the
trace.

Unless a return finds no return point, the stack is a part of what it was, the cells that the stack
top has passed are cleared, and all other cells hold what they held; the return stack is as it was,
but a call that overflows has left its return point there.  A return that finds no return point
leaves the last words of the stack, as many as it was to return. -/
theorem state_of_fault (program : Program) (trace : Bool) (console : Console) (count : Nat)
    (fault : Fault) :
    let e := Execution.run program count (Execution.fresh program trace console)
    let m := e.system.machine
    let t := (e.step program).system.machine
    e.outcome = none → Word.Fits m.registers.str →
    (e.step program).outcome = some (.faulted fault) →
    (fault.index = m.registers.ip ∧
      fault.instruction = ((e.fetch? program).map Instruction.text).getD Execution.endOfProgram ∧
      t.registers = { m.registers with str := t.registers.str } ∧ t.trace = m.trace) ∧
    ((∀ results, e.fetch? program = some (.ret results) →
        fault.error ≠ .returnStackUnderflow) →
      t.stack <+: m.stack ∧
      (∀ place : Nat, t.memory.read place =
        if t.registers.str < place ∧ (place : Int) ≤ m.registers.str then Word.unset
        else m.memory.read place) ∧
      (∀ frame, e.fetch? program = some (.call frame) → fault.error = .arithmeticOverflow →
        t.returns = ⟨m.registers.ip, frame⟩ :: m.returns) ∧
      ((∀ frame, e.fetch? program = some (.call frame) → fault.error ≠ .arithmeticOverflow) →
        t.returns = m.returns)) ∧
    (∀ results, e.fetch? program = some (.ret results) → fault.error = .returnStackUnderflow →
      t.stack = m.stack.drop (m.stack.length - results) ∧ m.returns = [] ∧ t.returns = []) := by
  intro e m t before word after
  have sound := Execution.run_sound program trace console count
  have balanced : Machine.Balanced program m := sound.running before
  cases fetched : e.fetch? program with
  | none =>
      have same : t = m := by
        show (e.step program).system.machine = _
        rw [Execution.step_of_end before fetched, Execution.machine_fail]
      rw [Execution.step_of_end before fetched, Execution.outcome_fail] at after
      obtain rfl := Outcome.faulted.inj (Option.some.inj after)
      have drained : Machine.Drained m t := by
        rw [same]
        exact Machine.Drained.refl m
      refine ⟨⟨rfl, rfl, drained.registers, drained.trace⟩, ?_, nofun⟩
      intro _
      exact ⟨drained.stack, drained.read, nofun, fun _ => drained.returns⟩
  | some ins =>
      obtain ⟨index, text, remains⟩ :=
        Execution.step_remains sound.grounded balanced word before fetched after
      cases remains with
      | residue residue other =>
          refine ⟨⟨index, text, residue.registers, residue.trace⟩, ?_, ?_⟩
          · intro _
            refine ⟨residue.stack, residue.read, ?_, ?_⟩
            · intro frame call overflow
              exact residue.returns_of_call (Option.some.inj call) overflow
            · intro plain
              refine residue.returns_of_plain ?_
              rintro frame rfl
              exact plain frame rfl
          · intro results ret underflow
            exact absurd underflow (other results (Option.some.inj ret))
      | unreturned results ret underflow none collapsed =>
          subst ret
          refine ⟨⟨index, text, collapsed.registers, collapsed.trace⟩,
            fun other => absurd underflow (other results rfl), ?_⟩
          rintro results ret -
          obtain rfl := Instruction.ret.inj (Option.some.inj ret)
          have lbr : m.registers.lbr = 0 := by
            rw [balanced.lbr, none]
            rfl
          exact ⟨collapsed.stack lbr sound.grounded.str, none, collapsed.returns.trans none⟩

/-- A program that calls the place on top of its two words, with a frame that is too large. -/
def strandedCall : Program := ⟨#[.literal 5, .literal 0, .call 0x8000000000000000], ∅⟩

/-- The call takes the place from the stack and clears its cell, and it leaves its return point. -/
theorem state_of_fault_stranded :
    let e := Execution.run strandedCall 2
      (Execution.fresh strandedCall false (Console.ofInput []))
    let t := (e.step strandedCall).system.machine
    e.outcome = none ∧ Word.Fits e.system.machine.registers.str ∧
    (e.step strandedCall).outcome =
      some (.faulted ⟨2, "CALL 9223372036854775808", .arithmeticOverflow⟩) ∧
    t.stack <+: [5, 0] ∧ t.registers.str = 0 ∧ t.memory.read 1 = Word.unset ∧
    t.returns = [⟨2, 0x8000000000000000⟩] := by
  intro e t
  have before : e.outcome = none := by decide +kernel
  have word : Word.Fits e.system.machine.registers.str := by decide +kernel
  have after : (e.step strandedCall).outcome =
      some (.faulted ⟨2, "CALL 9223372036854775808", .arithmeticOverflow⟩) := by decide +kernel
  have left := (state_of_fault strandedCall false (Console.ofInput []) 2 _ before word after).2.1
  have fetched : e.fetch? strandedCall = some (.call 0x8000000000000000) := by decide +kernel
  obtain ⟨stack, cells, returns, -⟩ := left fun _ _ => nofun
  have top : t.registers.str = 0 := by decide +kernel
  have taken : t.registers.str < (1 : Nat) ∧
      ((1 : Nat) : Int) ≤ e.system.machine.registers.str := by decide +kernel
  exact ⟨before, word, after, stack, top, (cells 1).trans (if_pos taken), returns _ fetched rfl⟩

end StackMachine
