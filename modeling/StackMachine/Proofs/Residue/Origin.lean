import StackMachine.Proofs.Residue.Basic

/-!
# Where words above the stack come from

A new machine has no words above the stack, and no step leaves one there but a store or a return.
So every such word in a run can be traced back to the step that left it.

* `Instruction.strews` — the instructions that can leave a word above the stack top.
* `Execution.step_accounted` — what one step leaves there.
* `word_above_strewn` — where the words above the stack come from, in every state of a run.
-/

namespace StackMachine

/-- Whether an instruction can leave words above the stack top. -/
def Instruction.strews : Instruction → Bool
  | .storeLocal _ | .storeGlobal _ | .ret _ => true
  | _ => false

lemma Machine.Strews.strews {ins : Instruction} {m t : Machine} {place : Nat}
    (h : Strews m t place ins) : ins.strews = true := by
  cases h <;> rfl

/-- **An instruction accounts for the words above the stack top**, whether it succeeds or fails. -/
lemma Instruction.perform_accounted {program : Program} {s : System} (ins : Instruction)
    (h : Machine.Grounded s.machine) :
    Leaves (ins.perform program) s (fun t => Machine.Accounted ins s.machine t.machine) := by
  by_cases ret : ∃ results, ins = .ret results
  · obtain ⟨results, rfl⟩ := ret
    exact Instruction.perform_ensures rfl ((Machine.Tidy.refl _).accounted _)
      (Machine.leaveRoutine_accounted h results)
  · have hret : ∀ results, ins ≠ .ret results := fun results hr => ret ⟨results, hr⟩
    refine (ins.perform_residue h hret).mono (fun _ _ ht => ht) ?_
    intro e t ht
    exact ht.accounted

namespace Execution

open Machine

variable {program : Program} {e : Execution}

/-- **A step leaves nothing above the stack top** unless it comes to carry out an instruction, and
then the instruction accounts for it. -/
lemma step_accounted (program : Program) (h : Grounded e.system.machine) :
    Tidy e.system.machine (e.step program).system.machine ∨
    ∃ ins, e.reached? program = some ins ∧
      Accounted ins e.system.machine (e.step program).system.machine := by
  by_cases ended : e.outcome ≠ none
  · rw [step_of_ended ended]
    exact Or.inl (Tidy.refl _)
  have before : e.outcome = none := Decidable.of_not_not ended
  cases fetched : e.fetch? program with
  | none =>
      rw [step_of_end before fetched, machine_fail]
      exact Or.inl (Tidy.refl _)
  | some ins =>
      cases shown : showTrace ins e.system with
      | error error t =>
          have same := ((showTrace_ensures ins e.system).error shown).2
          rw [step_of_error before fetched (bind_error shown), machine_fail, same]
          exact Or.inl (Tidy.refl _)
      | ok a t =>
          refine Or.inr ⟨ins, reached?_of_shown before fetched shown, ?_⟩
          rcases step_ensures before fetched (ins.perform_accounted h) with
            ⟨_, t, ht, same, -⟩ | ⟨t, ht, same, -⟩ | ⟨_, t, -, ht, same, -⟩
          · rw [same]
            exact ht
          · rw [same]
            exact ht
          · rw [same]
            exact ht.of_same rfl rfl

/-- Every word above the stack top of a run was left there by one of its steps. -/
lemma run_strewn (start : ∀ place, e.system.machine.memory.read place = Word.unset)
    (grounded : ∀ i, Grounded (run program i e).system.machine) (count place : Nat)
    (above : (run program count e).system.machine.registers.str < place)
    (word : (run program count e).system.machine.memory.read place ≠ Word.unset) :
    ∃ i < count, ∃ ins, (run program i e).reached? program = some ins ∧
      Strews (run program i e).system.machine (run program (i + 1) e).system.machine place ins := by
  induction count with
  | zero => exact absurd (start place) word
  | succ count ih =>
      have earlier : Kept (run program count e).system.machine
          (run program (count + 1) e).system.machine place →
          ∃ i < count + 1, ∃ ins, (run program i e).reached? program = some ins ∧
            Strews (run program i e).system.machine (run program (i + 1) e).system.machine place
              ins := by
        rintro (unset | ⟨above, same⟩)
        · exact absurd unset word
        · rw [same] at word
          obtain ⟨i, hi, strewn⟩ := ih above word
          exact ⟨i, Nat.lt_succ_of_lt hi, strewn⟩
      have step := step_accounted program (grounded count)
      rw [← run_succ] at step
      rcases step with tidy | ⟨ins, reached, accounted⟩
      · exact earlier (tidy place above)
      · rcases accounted place above with kept | strewn
        · exact earlier kept
        · exact ⟨count, Nat.lt_succ_self count, ins, reached, strewn⟩

end Execution

/-- **Where words above the stack come from.**  Take any state of a run of a new machine, be it one
that a fault has left, and a cell above its stack top that does not read as unset.  Some earlier
step of the run carried out a store to that cell, or a return that dropped it.  So as long as a run
carries out no store and no return, all cells above the stack top read as unset. -/
theorem word_above_strewn (program : Program) (trace : Bool) (console : Console) (count : Nat) :
    let run := fun i => Execution.run program i (Execution.fresh program trace console)
    let m := fun i => (run i).system.machine
    (∀ place : Nat, (m count).registers.str < place →
      (m count).memory.read place ≠ Word.unset →
      ∃ i < count, ∃ ins, (run i).reached? program = some ins ∧
        Machine.Strews (m i) (m (i + 1)) place ins) ∧
    ((∀ i < count, ∀ ins ∈ (run i).reached? program, ins.strews = false) →
      ∀ place : Nat, (m count).registers.str < place →
        (m count).memory.read place = Word.unset) := by
  intro run m
  have origin : ∀ place : Nat, (m count).registers.str < place →
      (m count).memory.read place ≠ Word.unset →
      ∃ i < count, ∃ ins, (run i).reached? program = some ins ∧
        Machine.Strews (m i) (m (i + 1)) place ins :=
    Execution.run_strewn Memory.read_empty
      (fun i => (Execution.run_sound program trace console i).grounded) count
  refine ⟨origin, fun plain place above => Decidable.byContradiction fun word => ?_⟩
  obtain ⟨i, hi, ins, reached, strewn⟩ := origin place above word
  exact absurd strewn.strews (by simp [plain i hi ins reached])

/-- A return drops two words and leaves them in memory, though it finds no return point. -/
example :
    let program : Program := ⟨#[.literal 1, .literal 2, .literal 3, .ret 1], ∅⟩
    (Execution.run program 4
      (Execution.fresh program false (Console.ofInput []))).system.machine.beyond =
      [(1, 2), (2, 3)] := by
  decide +kernel

end StackMachine
