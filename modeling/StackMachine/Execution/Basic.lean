import StackMachine.Execution.Action
import StackMachine.Log

/-!
# Execution

A program is run on a system, instruction by instruction, until it halts or faults.  At either end
what was written is delivered.  The state of the system is kept at a fault, so that the machine can
run another program.

* `Outcome` — how a run ends.
* `Execution` — a run under way, or ended.
* `Execution.start`, `Execution.step`, `Execution.run` — its beginning, one instruction, and a
  number of instructions.
-/

namespace StackMachine

/-- How a run ends. -/
inductive Outcome where
  /-- The program halted. -/
  | halted
  /-- An instruction could not be carried out. -/
  | faulted (fault : Fault)
deriving DecidableEq

/-- A run of a program. -/
structure Execution where
  /-- The machine and its console. -/
  system : System
  /-- What has been logged. -/
  log : Array Event
  /-- How the run ended, once it has. -/
  outcome : Option Outcome

namespace Flow

/-- The place that the run goes to from the instruction at `index`. -/
def target (index : Nat) : Flow → Nat
  | .next => index + 1
  | .jump target | .enter target _ | .leave target _ => target
  | .halt => index

/-- What is logged about frames, with the local base after the instruction. -/
def event? (base : Int) : Flow → Option Event
  | .enter _ frame => some (.frameOpened frame base)
  | .leave _ frame => some (.frameClosed frame base)
  | .next | .jump _ | .halt => none

end Flow

namespace Execution

/-- How the place behind the last instruction is displayed. -/
def endOfProgram : String := "<end of program>"

/-- A run before its first instruction. -/
def start (program : Program) (machine : Machine) (console : Console) : Execution where
  system := ⟨machine, console⟩
  log := #[.executing program.instructions.size]
  outcome := none

/-- Add an event to the log. -/
def note (e : Execution) (event : Event) : Execution := { e with log := e.log.push event }

/-- The run goes on at another place. -/
def goTo (e : Execution) (index : Nat) : Execution :=
  { e with system.machine.registers.ip := index }

/-- The run ends with a fault.  What was written is delivered, and if that fails the loss is only
logged. -/
def fail (e : Execution) (fault : Fault) : Execution :=
  match Console.flush e.system.console with
  | .ok _ console => { e with system.console := console, outcome := some (.faulted fault) }
  | .error _ console =>
    { e with system.console := console, outcome := some (.faulted fault) }.note .outputLost

/-- The run ends at a halt.  What was written is delivered, and if that fails the halt faults. -/
def finish (e : Execution) (index : Nat) (ins : Instruction) : Execution :=
  let e := e.note (.halted index)
  match Console.flush e.system.console with
  | .ok _ console => { e with system.console := console, outcome := some .halted }
  | .error error console =>
    { e with system.console := console, outcome := some (.faulted ⟨index, ins.text, error⟩) }

/-- The run goes where an instruction sends it. -/
def follow (e : Execution) (index : Nat) (flow : Flow) : Execution :=
  let e := e.goTo (flow.target index)
  match flow.event? e.system.machine.registers.lbr with
  | some event => e.note event
  | none => e

/-- One instruction.  A run that has ended stays as it is. -/
def step (program : Program) (e : Execution) : Execution :=
  match e.outcome with
  | some _ => e
  | none =>
    let index := e.system.machine.registers.ip
    match program.instructions[index]? with
    | none => e.fail ⟨index, endOfProgram, .invalidAddress index⟩
    | some ins =>
      match ins.perform program e.system with
      | .error error system => { e with system }.fail ⟨index, ins.text, error⟩
      | .ok .halt system => { e with system }.finish index ins
      | .ok flow system => { e with system }.follow index flow

/-- A number of instructions. -/
def run (program : Program) : (count : Nat) → Execution → Execution
  | 0, e => e
  | count + 1, e => run program count (e.step program)

end Execution

end StackMachine
