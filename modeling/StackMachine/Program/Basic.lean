import Std.Data.TreeMap
import StackMachine.Error
import StackMachine.Instruction.Basic

/-!
# Programs

A program is a table of instructions, run from the first on, and a table that says where each label
points.  A label may also point behind the last instruction.
-/

namespace StackMachine

/-- The instructions of a program and the places of its labels. -/
structure Program where
  /-- The instructions in order. -/
  instructions : Array Instruction
  /-- The place that each label points to. -/
  labels : Std.TreeMap String Nat

namespace Program

/-- The program without instructions and labels. -/
def empty : Program := ⟨#[], ∅⟩

/-- The place that a label points to. -/
def label (program : Program) (name : String) : Except MachineError Nat :=
  match program.labels[name]? with
  | some index => .ok index
  | none => .error (.undefinedLabel name)

end Program

end StackMachine
