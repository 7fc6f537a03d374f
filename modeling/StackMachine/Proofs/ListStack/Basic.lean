import StackMachine.Execution.Basic

/-!
# A machine with a list for a stack

This machine has no memory.  Its stack is a list that grows at the end, local and global cells are
elements of the list, and a return cuts the words between the base and the results out of it.  There
is nothing above the stack, so no word that was dropped can come back.

It says what programs mean that use the stack as a stack.  Where it agrees with the machine that
runs them is said in `StackMachine.Proofs.ListStack.Lockstep`.

* `ListMachine`, `ListM` — the state and the operations on it.
* `ListMachine.execute` — what each instruction does to the machine.
* `ListSystem`, `ListSystem.perform` — the whole of an instruction, at a console.
* `ListExecution` — a run.
-/

namespace StackMachine

/-- The state of the machine.  The running frame begins at the base, and the top word of the stack
is at the end of the list. -/
structure ListMachine where
  /-- The place in the program of the instruction to run. -/
  ip : Nat
  /-- The address of the first word of the running frame. -/
  base : Int
  /-- The words on the stack, the lowest one first. -/
  stack : List Word
  /-- The return points, the one of the latest call first. -/
  returns : List ReturnPoint
  /-- Whether each instruction is shown before it runs. -/
  trace : Bool

/-- An operation on the machine, which may fail. -/
abbrev ListM := EStateM MachineError ListMachine

namespace ListMachine

/-- A machine that has not run, with the trace on or off. -/
def initial (trace : Bool) : ListMachine := ⟨0, 0, [], [], trace⟩

/-- An integer that has to fit a word. -/
def checked (x : Int) : ListM Int :=
  if Word.Fits x then pure x else throw .arithmeticOverflow

/-! ## The stack -/

/-- The last word of the list. -/
def top : ListM Word := do
  match (← get).stack.getLast? with
  | some w => return w
  | none => throw .stackUnderflow

/-- Put a word at the end of the list. -/
def push (w : Word) : ListM Unit :=
  modify fun l => { l with stack := l.stack ++ [w] }

/-- Take the last word from the list. -/
def pop : ListM Word := do
  let w ← top
  modify fun l => { l with stack := l.stack.dropLast }
  return w

/-- Drop words from the end of the list, one after the other. -/
def popMany : (count : Nat) → ListM Unit
  | 0 => pure ()
  | count + 1 => do
    let _ ← pop
    popMany count

/-! ## Cells

The operands of loads and stores are addresses as before, but what they find there are elements of
the list.
-/

/-- The address of a local cell. -/
def localAddress (i : Int) : ListM Int := do
  checked ((← get).base + i)

/-- The word in a cell.  Nothing is stored behind the end of the stack. -/
def load (address : Int) : ListM Word := do
  let place ← Memory.place address
  return (← get).stack.getD place Word.unset

/-- Put a word into a cell of the stack.  One behind its end is lost. -/
def store (address : Int) (w : Word) : ListM Unit := do
  let place ← Memory.place address
  modify fun l => { l with stack := l.stack.set place w }

/-- The word in a local cell. -/
def loadLocal (i : Int) : ListM Word := do
  load (← localAddress i)

/-- Put a word into a local cell. -/
def storeLocal (i : Int) (w : Word) : ListM Unit := do
  store (← localAddress i) w

/-! ## Frames -/

/-- Move the base. -/
def moveBase (distance : Int) : ListM Unit := do
  let base ← checked ((← get).base + distance)
  modify fun l => { l with base }

/-- Move the base up by the size of a new frame. -/
def openFrame (size : Nat) : ListM Unit := do
  moveBase (← checked size)

/-- Move the base down by the size of a frame that ends. -/
def closeFrame (size : Nat) : ListM Unit := do
  moveBase (-(← checked size))

/-- Cut out of the stack what lies between the base and the results.  A frame that holds no more
than the results stays as it is. -/
def collapse (results : Nat) : ListM Unit := do
  let results ← checked results
  let l ← get
  let others ← checked (l.stack.length - l.base - results)
  if 0 < others then
    set { l with
      stack := l.stack.take l.base.toNat ++ l.stack.drop (l.stack.length - results.toNat) }

/-- Go to the place on the top of the stack, with a new frame and a return point. -/
def enterRoutine (frame : Nat) : ListM Flow := do
  let target ← pop
  let target ← Memory.place target.toInt
  modify fun l => { l with returns := ⟨l.ip, frame⟩ :: l.returns }
  openFrame frame
  return .enter target frame

/-- Take the latest return point. -/
def popReturn : ListM ReturnPoint := do
  match (← get).returns with
  | [] => throw .returnStackUnderflow
  | point :: rest =>
    modify fun l => { l with returns := rest }
    return point

/-- Go back behind the latest call with the results of the running frame. -/
def leaveRoutine (results : Nat) : ListM Flow := do
  collapse results
  let point ← popReturn
  closeFrame point.frame
  return .leave (point.callSite + 1) point.frame

/-! ## Instructions -/

/-- What an instruction does to the machine. -/
def execute (program : Program) : Instruction → ListM Flow
  | .nop => return .next
  | .halt => return .halt
  | .literal w => do
    push w
    return .next
  | .loadLocal i => do
    push (← loadLocal i.toInt)
    return .next
  | .loadGlobal i => do
    push (← load i.toInt)
    return .next
  | .storeLocal i => do
    storeLocal i.toInt (← pop)
    return .next
  | .storeGlobal i => do
    store i.toInt (← pop)
    return .next
  | .localAddress i => do
    push (Word.wrap (← localAddress i.toInt))
    return .next
  | .globalAddress i => do
    push i
    return .next
  | .unary op => do
    push (← op.apply (← pop))
    return .next
  | .binary op => do
    let right ← pop
    let left ← pop
    push (← op.apply left right)
    return .next
  | .pop count => do
    popMany count
    return .next
  | .dup => do
    push (← top)
    return .next
  | .swap => do
    let first ← pop
    let second ← pop
    push first
    push second
    return .next
  | .call frame => enterRoutine frame
  | .ret results => leaveRoutine results
  | .goto label => do
    return .jump (← program.label label)
  | .branch yes no => do
    let yes ← program.label yes
    let no ← program.label no
    let condition ← pop
    return .jump (if condition.toInt = 0 then no else yes)
  | .code label => do
    push (Word.wrap (← program.label label))
    return .next
  | .system _ => return .next
  | .unknown row => throw (.unknownInstruction row)

/-- The line that shows an instruction before it runs. -/
def traceLine (l : ListMachine) (ins : Instruction) : String :=
  padRight 20 ins.text ++ "\t" ++ toString l.base ++ "\t" ++ Word.listText l.stack ++ "\n"

/-- The line that shows the machine on request.  The stack top is where the list ends. -/
def dumpLine (l : ListMachine) : String :=
  "LBR=" ++ toString l.base ++ " STR=" ++ toString ((l.stack.length : Int) - 1) ++ " " ++
    Word.listText l.stack ++ "\n"

end ListMachine

/-! ## At a console

The console, its operations and all texts are those of the machine with memory.
-/

/-- A machine at a console. -/
structure ListSystem where
  /-- The machine. -/
  machine : ListMachine
  /-- Its console. -/
  console : Console

/-- An action of a machine at a console, which may fail. -/
abbrev ListAction := EStateM MachineError ListSystem

namespace ListAction

/-- An operation on the machine, with the console left alone. -/
def onMachine {α : Type} (operation : ListM α) : ListAction α := fun system =>
  match operation system.machine with
  | .ok a machine => .ok a { system with machine }
  | .error e machine => .error e { system with machine }

/-- An operation on the console, with the machine left alone. -/
def onConsole {α : Type} (operation : ConsoleM α) : ListAction α := fun system =>
  match operation system.console with
  | .ok a console => .ok a { system with console }
  | .error e console => .error e { system with console }

instance : MonadLift ListM ListAction := ⟨onMachine⟩

instance : MonadLift ConsoleM ListAction := ⟨onConsole⟩

end ListAction

namespace ListSystem

open ListMachine

/-- What a system call does. -/
def answer : SystemCall → ListAction Unit
  | .toggleTrace => modify fun system => { system with machine.trace := !system.machine.trace }
  | .dumpMemory => do
    Console.write (← get).machine.dumpLine
  | .readNumber => do
    let line ← Console.readLine
    push (← numberOfLine line)
  | .readCharacter => do
    let line ← Console.readLine
    push (← codeOfLine line)
  | .writeNumber => do
    let w ← pop
    Console.write w.text
  | .writeCharacter => do
    let code ← pop
    let c ← characterOfCode code
    Console.write c.toString
  | .newLine => Console.write "\n"
  | .endOfInput => push 0

/-- Show the instruction that is about to run, if the trace is on. -/
def showTrace (ins : Instruction) : ListAction Unit := do
  let l := (← get).machine
  if l.trace then
    Console.write (l.traceLine ins)

/-- The part of an instruction that is at the console.  Only system calls have one. -/
def serve : Instruction → ListAction Unit
  | .system service => answer service
  | _ => pure ()

/-- The whole of an instruction. -/
def perform (program : Program) (ins : Instruction) : ListAction Flow := do
  showTrace ins
  serve ins
  execute program ins

end ListSystem

/-! ## Runs -/

/-- A run of a program, under way or ended. -/
structure ListExecution where
  /-- The machine and its console. -/
  system : ListSystem
  /-- How the run ended, once it has. -/
  outcome : Option Outcome

namespace ListExecution

/-- A run on a machine that has not run, with the trace on or off. -/
def fresh (trace : Bool) (console : Console) : ListExecution :=
  ⟨⟨ListMachine.initial trace, console⟩, none⟩

/-- The run ends with a fault.  What was written is delivered, and if that fails nothing is said. -/
def fail (l : ListExecution) (fault : Fault) : ListExecution :=
  match Console.flush l.system.console with
  | .ok _ console | .error _ console => ⟨{ l.system with console }, some (.faulted fault)⟩

/-- The run ends at a halt.  What was written is delivered, and if that fails the halt faults. -/
def finish (l : ListExecution) (index : Nat) (ins : Instruction) : ListExecution :=
  match Console.flush l.system.console with
  | .ok _ console => ⟨{ l.system with console }, some .halted⟩
  | .error error console => ⟨{ l.system with console }, some (.faulted ⟨index, ins.text, error⟩)⟩

/-- One instruction.  A run that has ended stays as it is. -/
def step (program : Program) (l : ListExecution) : ListExecution :=
  match l.outcome with
  | some _ => l
  | none =>
    let index := l.system.machine.ip
    match program.instructions[index]? with
    | none => l.fail ⟨index, Execution.endOfProgram, .invalidAddress index⟩
    | some ins =>
      match ListSystem.perform program ins l.system with
      | .error error system => { l with system }.fail ⟨index, ins.text, error⟩
      | .ok .halt system => { l with system }.finish index ins
      | .ok flow system =>
        { l with system := { system with machine.ip := flow.target index } }

/-- A number of instructions. -/
def run (program : Program) : (count : Nat) → ListExecution → ListExecution
  | 0, l => l
  | count + 1, l => run program count (l.step program)

end ListExecution

end StackMachine
