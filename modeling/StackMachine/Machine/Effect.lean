import StackMachine.Machine.Basic
import StackMachine.Program.Basic

/-!
# What instructions do to the machine

The effect of an instruction on stack, memory and frames, and where the run goes next.  The console
is no part of it: what a system call does is in `StackMachine.Execution.Action`, and here only its
step to the next instruction remains.

* `Flow` — where the run goes after an instruction.
* `Machine.execute` — the effect of each instruction.
-/

namespace StackMachine

/-- Where the run goes after an instruction. -/
inductive Flow where
  /-- On to the next instruction. -/
  | next
  /-- To another place in the program. -/
  | jump (target : Nat)
  /-- Into a called routine, whose frame lies the given number of words above the caller's. -/
  | enter (target frame : Nat)
  /-- Behind the call of a routine whose frame lay that far above the caller's. -/
  | leave (target frame : Nat)
  /-- Nowhere. -/
  | halt
deriving DecidableEq

namespace Machine

/-- Go to the place on the top of the stack, with a new frame and a return point. -/
def enterRoutine (frame : Nat) : MachineM Flow := do
  let target ← pop
  let target ← Memory.place target.toInt
  modify fun m => { m with returns := ⟨m.registers.ip, frame⟩ :: m.returns }
  openFrame frame
  return .enter target frame

/-- Take the latest return point. -/
def popReturn : MachineM ReturnPoint := do
  match (← get).returns with
  | [] => throw .returnStackUnderflow
  | point :: rest =>
    modify fun m => { m with returns := rest }
    return point

/-- Go back behind the latest call with the results of the running frame. -/
def leaveRoutine (results : Nat) : MachineM Flow := do
  collapseFrame results
  let point ← popReturn
  closeFrame point.frame
  return .leave (point.callSite + 1) point.frame

/-- What an instruction does to the machine.  Labels are looked up before anything else is done. -/
def execute (program : Program) : Instruction → MachineM Flow
  | .nop => return .next
  | .halt => return .halt
  | .literal w => do
    push w
    return .next
  | .loadLocal i => do
    push (← loadLocal i.toInt)
    return .next
  | .loadGlobal i => do
    push (← loadGlobal i.toInt)
    return .next
  | .storeLocal i => do
    storeLocal i.toInt (← pop)
    return .next
  | .storeGlobal i => do
    storeGlobal i.toInt (← pop)
    return .next
  | .localAddress i => do
    push (Word.wrap (← localAddress i.toInt))
    return .next
  | .globalAddress i => do
    push i
    return .next
  | .unary op => do
    push (← op.apply (← pop))
    return .next
  | .binary op => do
    let right ← pop
    let left ← pop
    push (← op.apply left right)
    return .next
  | .pop count => do
    popMany count
    return .next
  | .dup => do
    push (← top)
    return .next
  | .swap => do
    let first ← pop
    let second ← pop
    push first
    push second
    return .next
  | .call frame => enterRoutine frame
  | .ret results => leaveRoutine results
  | .goto label => do
    return .jump (← program.label label)
  | .branch yes no => do
    let yes ← program.label yes
    let no ← program.label no
    let condition ← pop
    return .jump (if condition.toInt = 0 then no else yes)
  | .code label => do
    push (Word.wrap (← program.label label))
    return .next
  | .system _ => return .next
  | .unknown row => throw (.unknownInstruction row)

end Machine

end StackMachine
