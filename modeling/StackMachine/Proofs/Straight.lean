import StackMachine.Proofs.Frames.Move
import StackMachine.Proofs.Run

/-!
# Straight code

Instructions that follow each other in the program are carried out one by one, as long as none of
them fails or sends the run elsewhere.

* `Execution.Ahead` — the instructions that a run has before it.
* `Instruction.Leads` — an instruction that succeeds and goes on to the next one.
* `Execution.Ahead.next` — a step into the code ahead.
-/

namespace StackMachine

/-- **An instruction leads on** from a system to one with `after`: it succeeds, and the next
instruction follows. -/
def Instruction.Leads (program : Program) (ins : Instruction) (s : System) (after : System → Prop) :
    Prop :=
  ∃ t, ins.perform program s = .ok .next t ∧ after t

namespace Execution

variable {program : Program} {e : Execution} {ins : Instruction} {code : List Instruction}

/-- **The code ahead of a run** that goes on: the instructions from the next one to the end of the
program. -/
structure Ahead (program : Program) (e : Execution) (code : List Instruction) : Prop where
  running : e.outcome = none
  code : program.instructions.toList.drop e.system.machine.registers.ip = code

/-- A run that begins has the whole program ahead. -/
lemma ahead_start (h : program.instructions.toList = code) {m : Machine}
    (first : m.registers.ip = 0) (console : Console) :
    (start program m console).Ahead program code where
  running := rfl
  code := by
    show program.instructions.toList.drop m.registers.ip = code
    rw [first, List.drop_zero, h]

namespace Ahead

lemma fetched (h : e.Ahead program (ins :: code)) : e.fetch? program = some ins := by
  have head := congrArg List.head? h.code
  rw [List.head?_drop, List.head?_cons, Array.getElem?_toList] at head
  exact head

/-- **A step into the code ahead.**  The instruction is carried out, and what lay behind it lies
ahead. -/
lemma next {after : System → Prop} (h : e.Ahead program (ins :: code))
    (leads : ins.Leads program e.system after) :
    (e.step program).Ahead program code ∧ ∃ t, after t ∧
      (e.step program).system = { t with machine.registers.ip :=
        e.system.machine.registers.ip + 1 } := by
  obtain ⟨t, performed, holds⟩ := leads
  have step := step_of_flow h.running h.fetched performed (by simp)
  have system : (e.step program).system = { t with machine.registers.ip :=
      e.system.machine.registers.ip + 1 } := by
    rw [step, system_follow]
    rfl
  refine ⟨⟨?_, ?_⟩, t, holds, system⟩
  · rw [step, outcome_follow, h.running]
  · rw [system]
    show program.instructions.toList.drop (e.system.machine.registers.ip + 1) = code
    rw [← List.drop_drop, h.code, List.drop_one, List.tail_cons]

end Ahead

end Execution

end StackMachine
